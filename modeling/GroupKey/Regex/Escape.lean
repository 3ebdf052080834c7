import GroupKey.Regex.Cursor
import GroupKey.Regex.Syntax

/-!
The smallest parts of a pattern: a character that stands for itself, or an escape.

An escape is a backslash and what follows it: a character that has no meaning of its own then, a
letter for a control, a character by its number, a class or a condition on the place.
-/

namespace GroupKey.Regex

def backslash : Char := '\x5c'

def openBrace : Char := '\x7b'

def closeBrace : Char := '\x7d'

/-- One of the smallest parts of a pattern. -/
inductive Primitive where
  | literal (character : Literal)
  | assertion (span : Span) (condition : Assertion)
  | property (span : Span) (negated : Bool) (name : Property)
  | letter (span : Span) (negated : Bool) (kind : LetterClass)
  deriving Repr

namespace Primitive

def pattern : Primitive → Pattern
  | .literal character => .literal character
  | .assertion span condition => .assertion span condition
  | .property span negated name => .property span negated name
  | .letter span negated kind => .letter span negated kind

def span (primitive : Primitive) : Span := primitive.pattern.span

/-- The part as an item of a class. Conditions have no place there. -/
def item : Primitive → Read ClassItem
  | .literal character => return .literal character
  | .assertion span _ => fail .classEscape span
  | .property span negated name => return .property span negated name
  | .letter span negated kind => return .letter span negated kind

def rangeEnd : Primitive → Read Literal
  | .literal character => return character
  | primitive => fail .classRangeEnd primitive.span

end Primitive

def isHexDigit (c : Char) : Bool :=
  c.isDigit || ('a' ≤ c && c ≤ 'f') || ('A' ≤ c && c ≤ 'F')

def hexDigitValue (c : Char) : Nat :=
  if c.isDigit then c.toNat - '0'.toNat else c.toLower.toNat - 'a'.toNat + 10

def hexValue (digits : List Char) : Nat :=
  digits.foldl (fun value c => value * 16 + hexDigitValue c) 0

def characterOf (digits : List Char) (span : Span) : Read Char :=
  let value := hexValue digits
  if value.isValidChar then return Char.ofNat value else fail .hexInvalid span

def readHexDigits : Nat → Read (List Char)
  | 0 => return []
  | count + 1 => do
    match ← peek? with
    | none => fail .escapeUnfinished (← nothingHere)
    | some c =>
      if isHexDigit c then
        advanceSkipping
        return c :: (← readHexDigits count)
      else fail .hexDigit (← characterHere)

def readBracedCharacter (start : Place) : Read Literal := do
  let brace ← here
  advance
  let digitsStart ← here
  skip
  let digits ← readRunSkipping isHexDigit
  match ← peek? with
  | none => fail .escapeUnfinished (← since brace)
  | some c =>
    if c ≠ closeBrace then fail .hexDigit (← characterHere)
    let digitsSpan ← since digitsStart
    advanceSkipping
    if digits = [] then fail .hexEmpty (← since brace)
    return { char := ← characterOf digits digitsSpan, span := ← since start }

/-- A character by its number, whose digits are so many or stand between braces. -/
def readNumberedCharacter (start : Place) (count : Nat) : Read Literal := do
  advanceSkipping
  match ← peek? with
  | none => fail .escapeUnfinished (← nothingHere)
  | some c =>
    if c = openBrace then readBracedCharacter start
    else
      let digitsStart ← here
      let digits ← readHexDigits count
      let char ← characterOf digits (← since digitsStart)
      return { char, span := ← since start, asByte := count = 2 }

def Property.ofName (name : List Char) : Property :=
  match (List.range name.length).find? fun i => ['!', '='].isPrefixOf (name.drop i) with
  | some i => .valued (String.ofList (name.take i)) (String.ofList (name.drop (i + 2)))
  | none =>
    match name.idxOf? ':' <|> name.idxOf? '=' with
    | some i => .valued (String.ofList (name.take i)) (String.ofList (name.drop (i + 1)))
    | none => .named (String.ofList name)

/-- The characters with a property, which is named by a letter or between braces. -/
def readProperty (start : Place) (negated : Bool) : Read Primitive := do
  advanceSkipping
  match ← peek? with
  | none => fail .escapeUnfinished (← nothingHere)
  | some c =>
    if c = openBrace then
      advanceSkipping
      let name ← readRunSkipping (· ≠ closeBrace)
      if ← atEnd then fail .escapeUnfinished (← nothingHere)
      advance
      return .property (← since start) negated (.ofName name)
    else if c = backslash then fail .propertyInvalid (← characterHere)
    else
      advanceSkipping
      return .property (← since start) negated (.named c.toString)

def isEdgeLetter (c : Char) : Bool := c.isAlpha || c = '-'

def edge? (name : List Char) : Option Assertion :=
  match String.ofList name with
  | "start" => some .wordStart
  | "end" => some .wordEnd
  | "start-half" => some .wordStartHalf
  | "end-half" => some .wordEndHalf
  | _ => none

/-- The kind of word edge between braces. Braces that no name begins in are left for a count. -/
def readEdge (start : Place) : Read Assertion := do
  if (← peek?) ≠ some openBrace then return .wordEdge
  let before ← get
  advanceSkipping
  match ← peek? with
  | none => fail .boundaryUnfinished (← since start)
  | some c =>
    if !isEdgeLetter c then
      set before
      return .wordEdge
    let nameStart ← here
    let name ← readRunSkipping isEdgeLetter
    if (← peek?) ≠ some closeBrace then fail .boundaryUnclosed (← since before.place)
    let nameSpan ← since nameStart
    advance
    match edge? name with
    | some kind => return kind
    | none => fail .boundaryUnknown nameSpan

/-- Whether a backslash takes the meaning from a character. It does so from those of ASCII but not
from letters and digits, nor from the angles, which stand for the edges of a word. -/
def isEscapable (c : Char) : Bool := c.toNat < 0x80 && !c.isAlphanum && c ≠ '<' && c ≠ '>'

def control? : Char → Option Char
  | 'a' => some '\x07'
  | 'f' => some '\x0c'
  | 't' => some '\t'
  | 'n' => some '\n'
  | 'r' => some '\r'
  | 'v' => some '\x0b'
  | _ => none

/-- The class that a letter stands for. An upper-case letter negates it. -/
def letterClass? (c : Char) : Option LetterClass :=
  match c.toLower with
  | 'd' => some .digit
  | 's' => some .space
  | 'w' => some .word
  | _ => none

def digitCount? : Char → Option Nat
  | 'x' => some 2
  | 'u' => some 4
  | 'U' => some 8
  | _ => none

/-- The condition that a character stands for, up to the kind of word edge. -/
def condition? : Char → Option Assertion
  | 'A' => some .textStart
  | 'z' => some .textEnd
  | 'b' => some .wordEdge
  | 'B' => some .noWordEdge
  | '<' => some .wordStart
  | '>' => some .wordEnd
  | _ => none

def readEscape : Read Primitive := do
  let start ← here
  advance
  match ← peek? with
  | none => fail .escapeUnfinished (← since start)
  | some c =>
    if c.isDigit then fail .backreference ⟨start, (← characterHere).stop⟩
    if let some count := digitCount? c then
      return .literal (← readNumberedCharacter start count)
    if c = 'p' ∨ c = 'P' then return ← readProperty start (c = 'P')
    advance
    let span ← since start
    if let some kind := letterClass? c then return .letter span c.isUpper kind
    if isEscapable c then return .literal { span, char := c }
    if let some char := control? c then return .literal { span, char }
    match condition? c with
    | none => fail .escapeUnknown span
    | some .wordEdge =>
      let kind ← readEdge start
      return .assertion (← since start) kind
    | some condition => return .assertion span condition

end GroupKey.Regex
