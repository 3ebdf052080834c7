import GroupKey.Regex.Escape

/-!
Classes between brackets.

A class lists characters, ranges of them and other classes, and may be negated. Operations on
classes stand between their operands and are carried out from left to right. A bracket that closes
a class stands for itself when it comes first, and so do dashes.
-/

namespace GroupKey.Regex

def asciiClass? (name : List Char) : Option CharSet :=
  match String.ofList name with
  | "alnum" => some [(0x30, 0x39), (0x41, 0x5A), (0x61, 0x7A)]
  | "alpha" => some [(0x41, 0x5A), (0x61, 0x7A)]
  | "ascii" => some [(0x00, 0x7F)]
  | "blank" => some [(0x09, 0x09), (0x20, 0x20)]
  | "cntrl" => some [(0x00, 0x1F), (0x7F, 0x7F)]
  | "digit" => some [(0x30, 0x39)]
  | "graph" => some [(0x21, 0x7E)]
  | "lower" => some [(0x61, 0x7A)]
  | "print" => some [(0x20, 0x7E)]
  | "punct" => some [(0x21, 0x2F), (0x3A, 0x40), (0x5B, 0x60), (0x7B, 0x7E)]
  | "space" => some [(0x09, 0x0D), (0x20, 0x20)]
  | "upper" => some [(0x41, 0x5A)]
  | "word" => some [(0x30, 0x39), (0x41, 0x5A), (0x5F, 0x5F), (0x61, 0x7A)]
  | "xdigit" => some [(0x30, 0x39), (0x41, 0x46), (0x61, 0x66)]
  | _ => none

/-- The operation that a doubled character stands for. -/
def classOperation? : Char → Option ClassOperation
  | '&' => some .intersection
  | '-' => some .difference
  | '~' => some .symmetricDifference
  | _ => none

/-- The items of a class that have been read, the last one first. -/
structure ReadItems where
  span : Span
  reversed : List ClassItem := []

namespace ReadItems

def push (items : ReadItems) (item : ClassItem) : ReadItems where
  span := ⟨if items.reversed.isEmpty then item.span.start else items.span.start, item.span.stop⟩
  reversed := item :: items.reversed

def whole (items : ReadItems) : ClassItem :=
  match items.reversed with
  | [] => .empty items.span
  | [item] => item
  | several => .union items.span several.reverse

end ReadItems

structure OpenClass where
  opened : Span
  negated : Bool
  /-- The left operand of the operation that is waiting for its right one. -/
  waiting : Option (ClassOperation × ClassItem) := none
  items : ReadItems

namespace OpenClass

def push (c : OpenClass) (item : ClassItem) : OpenClass := { c with items := c.items.push item }

def whole (c : OpenClass) : ClassItem :=
  match c.waiting with
  | none => c.items.whole
  | some (kind, left) =>
    .operation ⟨left.span.start, c.items.whole.span.stop⟩ kind left c.items.whole

/-- The class with an operation at the given place, whose left operand is all before it. -/
def operate (c : OpenClass) (kind : ClassOperation) (place : Place) : OpenClass :=
  { c with waiting := some (kind, c.whole), items := { span := .empty place } }

end OpenClass

/-- Passes over dashes at the start of a class, at most so many. -/
def readDashes (start : Place) : Nat → ReadItems → Read ReadItems
  | 0, items => return items
  | most + 1, items => do
    if (← peek?) ≠ some '-' then return items
    let items := items.push (.literal { span := ← characterHere, char := '-' })
    advanceSkipping
    if ← atEnd then fail .classUnclosed (.empty start)
    readDashes start most items

/-- The start of a class: its bracket, its negation, and what stands for itself there. -/
def readOpening : Read OpenClass := do
  let start ← here
  advanceSkipping
  if ← atEnd then fail .classUnclosed (← since start)
  let negated := (← peek?) = some '^'
  if negated then
    advanceSkipping
    if ← atEnd then fail .classUnclosed (← since start)
  let mut items ← readDashes start (← get).rest.length { span := ← nothingHere }
  if items.reversed.isEmpty ∧ (← peek?) = some ']' then
    items := items.push (.literal { span := ← characterHere, char := ']' })
    advanceSkipping
    if ← atEnd then fail .classUnclosed (← since start)
  return { opened := ← since start, negated, items }

/-- A class of ASCII characters by its name, if one comes next. -/
def readAsciiClass? : Read (Option ClassItem) := do
  let before ← get
  if ← accept ['[', ':'] then
    let negated ← accept ['^']
    let name ← readRun (· ≠ ':')
    if ← accept [':', ']'] then
      if let some set := asciiClass? name then
        return some (.ascii (← since before.place) negated set)
  set before
  return none

def readMember : Read Primitive := do
  match ← peek? with
  | none => fail .escapeUnfinished (← nothingHere)
  | some c =>
    if c = backslash then readEscape
    else
      let span ← characterHere
      advance
      return .literal { span, char := c }

/-- The character that decides what a dash means: the one after it, or after the blanks behind it
where these are passed over, and a number sign with its blanks too. -/
def peekBehindDash? : Read (Option Char) := do
  let cursor ← get
  let rest := cursor.rest.tail
  if !cursor.skipping then return rest.head?
  match rest.dropWhile Text.isBlank with
  | '#' :: comment => return (comment.dropWhile Text.isBlank).head?
  | rest => return rest.head?

/-- A member of a class, or a range if a dash comes after it that is neither the last of the class
nor one of two. -/
def readClassItem (opened : Span) : Read ClassItem := do
  let first ← readMember
  skip
  if ← atEnd then fail .classUnclosed opened
  if (← peek?) ≠ some '-' ∨ (← peekBehindDash?) ∈ [some ']', some '-'] then return ← first.item
  advanceSkipping
  if ← atEnd then fail .classUnclosed opened
  let last ← readMember
  let span : Span := ⟨first.span.start, last.span.stop⟩
  let first ← first.rangeEnd
  let last ← last.rangeEnd
  if last.char < first.char then fail .classRangeOrder span
  return .range span first last

/-- The rest of a class, in at most so many steps: where it stands, whether it is negated, and what
is in it. The classes around it are given from the inside out. -/
def readClassItems : Nat → OpenClass → List OpenClass → Read (Span × Bool × ClassItem)
  | 0, inner, _ => fail .classUnclosed inner.opened
  | steps + 1, inner, outer => do
    skip
    match ← peek? with
    | none => fail .classUnclosed inner.opened
    | some '[' =>
      match ← readAsciiClass? with
      | some item => readClassItems steps (inner.push item) outer
      | none => readClassItems steps (← readOpening) (inner :: outer)
    | some ']' =>
      advance
      let span ← since inner.opened.start
      match outer with
      | [] => return (span, inner.negated, inner.whole)
      | parent :: outer =>
        readClassItems steps (parent.push (.bracket span inner.negated inner.whole)) outer
    | some c =>
      match classOperation? c with
      | some kind =>
        if ← accept [c, c] then
          readClassItems steps (inner.operate kind (← here)) outer
        else readClassItems steps (inner.push (← readClassItem inner.opened)) outer
      | none => readClassItems steps (inner.push (← readClassItem inner.opened)) outer

def readClass : Read (Span × Bool × ClassItem) := do
  let opening ← readOpening
  readClassItems ((← get).rest.length + 1) opening []

end GroupKey.Regex
