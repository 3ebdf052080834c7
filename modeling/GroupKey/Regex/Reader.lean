import GroupKey.Regex.Bracket
import GroupKey.Text.Letters

/-!
Reading whole patterns: groups, choices and repetitions.

A reader keeps the groups that are open, from the inside out, and of each of them what has been
read. Every step reads one part of the pattern.
-/

namespace GroupKey.Regex

/-- The parts of a sequence that have been read, the last one first. -/
structure ReadParts where
  start : Place
  reversed : List Pattern := []

def ReadParts.whole (parts : ReadParts) (stop : Place) : Pattern :=
  match parts.reversed with
  | [] => .empty ⟨parts.start, stop⟩
  | [part] => part
  | several => .sequence ⟨parts.start, stop⟩ several.reverse

/-- What has been read of a group or of the whole: the branches of a choice, the last one first, and
the parts since. -/
structure ReadBranches where
  start : Place
  reversed : List Pattern := []
  parts : ReadParts

namespace ReadBranches

def ofStart (start : Place) : ReadBranches where
  start := start
  parts := { start }

def whole (branches : ReadBranches) (stop : Place) : Pattern :=
  match branches.reversed with
  | [] => branches.parts.whole stop
  | earlier => .choice ⟨branches.start, stop⟩ (earlier.reverse ++ [branches.parts.whole stop])

def push (branches : ReadBranches) (part : Pattern) : ReadBranches :=
  { branches with
    parts := { branches.parts with reversed := part :: branches.parts.reversed } }

/-- A branch has been read that stops at a place, and the next one starts at another. -/
def branch (branches : ReadBranches) (stop next : Place) : ReadBranches where
  start := branches.start
  reversed := branches.parts.whole stop :: branches.reversed
  parts := { start := next }

end ReadBranches

structure OpenGroup where
  opened : Span
  /-- Its flags, unless its match is kept. -/
  settings : Option FlagSettings
  skipping : Bool
  before : ReadBranches

def OpenGroup.close (group : OpenGroup) (body : Pattern) (stop : Place) : Pattern :=
  match group.settings with
  | none => .capture ⟨group.opened.start, stop⟩ body
  | some settings => .group ⟨group.opened.start, stop⟩ settings body

/-- Whether a character can stand in the name of a group; the first one must be a letter. -/
def isNameCharacter (first : Bool) (c : Char) : Bool :=
  if first then c = '_' || Text.isLetter c
  else c ∈ ['_', '.', '[', ']'] || Text.isLetter c || Text.isNumber c

def readNameCharacters : Nat → Bool → Read (List Char)
  | 0, _ => return []
  | most + 1, first => do
    match ← peek? with
    | none | some '>' => return []
    | some c =>
      if !isNameCharacter first c then fail .groupNameInvalid (← characterHere)
      advance
      return c :: (← readNameCharacters most false)

/-- The name of a group, which no other group may have. -/
def readGroupName : Read Unit := do
  let start ← here
  let name ← readNameCharacters (← get).rest.length true
  let span ← since start
  if ← atEnd then fail .groupNameUnfinished (← nothingHere)
  advance
  if name = [] then fail .groupNameEmpty (.empty start)
  let name := String.ofList name
  if let some first := (← get).names.lookup name then fail (.groupNameDuplicate first) span
  modify fun cursor => { cursor with names := (name, span) :: cursor.names }

/-- The flags that have been read, the last one first. -/
structure ReadFlags where
  reversed : List (Flag × Bool × Span) := []
  negation : Option Span := none
  /-- Whether the negation came last. -/
  dangling : Bool := false

/-- The flags up to a colon or a closing parenthesis, in at most so many steps. -/
def readFlags : Nat → ReadFlags → Read FlagSettings
  | 0, _ => return []
  | most + 1, flags => do
    match ← peek? with
    | none => fail .flagUnfinished (← nothingHere)
    | some c =>
      if c = ':' ∨ c = ')' then
        if let some span := flags.negation then
          if flags.dangling then fail .flagDanglingNegation span
        return flags.reversed.reverse.map fun (flag, value, _) => (flag, value)
      let span ← characterHere
      if c = '-' then
        if let some first := flags.negation then fail (.flagRepeatedNegation first) span
        advance
        readFlags most { flags with negation := some span, dangling := true }
      else
        match Flag.ofLetter? c with
        | none => fail .flagUnknown span
        | some flag =>
          if let some (_, first) := flags.reversed.lookup flag then
            fail (.flagDuplicate first) span
          advance
          readFlags most
            { flags with
              reversed := (flag, flags.negation.isNone, span) :: flags.reversed
              dangling := false }

inductive Opening where
  /-- A change of flags for the rest of the group around it. -/
  | flags (settings : FlagSettings)
  /-- A group: its flags, unless its match is kept. -/
  | group (settings : Option FlagSettings)

/-- The beginnings of conditions on what stands before or after. -/
def lookArounds : List (List Char) := [['?', '='], ['?', '!'], ['?', '<', '='], ['?', '<', '!']]

/-- What comes between the parenthesis of a group, which stands at the given stretch, and its body. -/
def readGroupOpening (opened : Span) : Read Opening := do
  skip
  if ← lookArounds.anyM accept then fail .lookAround (← since opened.start)
  let inner ← nothingHere
  if ← accept ['?', 'P', '<'] <||> accept ['?', '<'] then
    readGroupName
    return .group none
  else if ← accept ['?'] then
    if ← atEnd then fail .groupUnclosed opened
    let settings ← readFlags ((← get).rest.length + 1) {}
    let groups := (← peek?) = some ':'
    advance
    if groups then return .group (some settings)
    if settings = [] then fail .repetitionMissing inner
    return .flags settings
  else return .group none

/-- The part that a repetition repeats, and what has been read before it. -/
def lastPart (branches : ReadBranches) : Read (Pattern × ReadBranches) := do
  match branches.parts.reversed with
  | [] | .setFlags .. :: _ | .empty _ :: _ => fail .repetitionMissing (← nothingHere)
  | part :: earlier =>
    return (part, { branches with parts := { branches.parts with reversed := earlier } })

/-- A repetition by a sign, and a sign after it that makes it prefer to be short. -/
def readSign (branches : ReadBranches) (least : Nat) (greatest : Option Nat) :
    Read ReadBranches := do
  let (part, earlier) ← lastPart branches
  advance
  if (← peek?) = some '?' then advance
  return earlier.push (.repetition (← since part.span.start) least greatest part)

/-- A number of a count, if there is one, with the blanks around it, and where it stands. -/
def readNumber : Read (Option Nat × Span) := do
  let _ ← readRun Text.isBlank
  let start ← here
  let digits ← readRunSkipping Char.isDigit
  let span ← since start
  let _ ← readRunSkipping Text.isBlank
  if digits = [] then return (none, span)
  let value := digits.foldl (fun value c => value * 10 + (c.toNat - '0'.toNat)) 0
  return (some value, span)

/-- The number that has been read, which must be there and fit 32 bits. -/
def number : Option Nat × Span → Read Nat
  | (none, span) => fail .countEmpty span
  | (some value, span) => if value < 0x100000000 then return value else fail .decimalTooLarge span

/-- The least and the greatest number of a count that starts at a place, given its first number. -/
def readBounds (start : Place) (first : Option Nat × Span) : Read (Nat × Option Nat) := do
  if (← peek?) ≠ some ',' then
    let count ← number first
    return (count, some count)
  advanceSkipping
  if ← atEnd then fail .countUnclosed (← since start)
  let least ← number first
  if (← peek?) = some closeBrace then return (least, none)
  return (least, some (← number (← readNumber)))

def readCount (branches : ReadBranches) : Read ReadBranches := do
  let start ← here
  let (part, earlier) ← lastPart branches
  advanceSkipping
  if ← atEnd then fail .countUnclosed (← since start)
  let first ← readNumber
  if ← atEnd then fail .countUnclosed (← since start)
  let (least, greatest) ← readBounds start first
  if (← peek?) ≠ some closeBrace then fail .countUnclosed (← since start)
  advanceSkipping
  if (← peek?) = some '?' then advance
  if greatest.any (· < least) then fail .countOrder (← since start)
  return earlier.push (.repetition (← since part.span.start) least greatest part)

/-- Any other part: an escape, a character, or a sign for one or for a place. -/
def readPrimitive (c : Char) : Read Pattern := do
  if c = backslash then return (← readEscape).pattern
  let span ← characterHere
  advance
  match c with
  | '.' => return .dot span
  | '^' => return .assertion span .lineStart
  | '$' => return .assertion span .lineEnd
  | c => return .literal { span, char := c }

/-- The rest of a pattern, in at most so many steps. -/
def readParts : Nat → ReadBranches → List OpenGroup → Read Pattern
  | 0, branches, _ => return branches.whole (← here)
  | steps + 1, branches, groups => do
    skip
    match ← peek? with
    | none =>
      match groups with
      | [] => return branches.whole (← here)
      | group :: _ => fail .groupUnclosed group.opened
    | some '(' =>
      let opened ← characterHere
      advance
      let skipping := (← get).skipping
      match ← readGroupOpening opened with
      | .flags settings =>
        let skips := (settings.lookup .ignoreBlanks).getD skipping
        modify ({ · with skipping := skips })
        readParts steps (branches.push (.setFlags (← since opened.start) settings)) groups
      | .group settings =>
        let skips := ((settings.bind (·.lookup .ignoreBlanks)).getD skipping)
        modify ({ · with skipping := skips })
        readParts steps (.ofStart (← here)) (⟨opened, settings, skipping, branches⟩ :: groups)
    | some ')' =>
      match groups with
      | [] => fail .groupUnopened (← characterHere)
      | group :: groups =>
        modify ({ · with skipping := group.skipping })
        let body := branches.whole (← here)
        advance
        readParts steps (group.before.push (group.close body (← here))) groups
    | some '|' =>
      let stop ← here
      advance
      readParts steps (branches.branch stop (← here)) groups
    | some '[' =>
      let (span, negated, body) ← readClass
      readParts steps (branches.push (.bracket span negated body)) groups
    | some '?' => readParts steps (← readSign branches 0 (some 1)) groups
    | some '*' => readParts steps (← readSign branches 0 none) groups
    | some '+' => readParts steps (← readSign branches 1 none) groups
    | some c =>
      if c = openBrace then readParts steps (← readCount branches) groups
      else readParts steps (branches.push (← readPrimitive c)) groups

def readPattern : Read Pattern := do
  let pattern ← readParts ((← get).rest.length + 1) (.ofStart (← here)) []
  match pattern.tooDeep? deepest with
  | none => return pattern
  | some span => fail .nestedTooDeep span

def Pattern.read (text : String) : Except LocatedFault Pattern :=
  readPattern.run' { rest := text.toList }

end GroupKey.Regex
