import GroupKey.Regex.CharSet
import GroupKey.Regex.Place

/-!
Patterns as they are written: their parts, and where in the pattern these stand.
-/

namespace GroupKey.Regex

/-- Letters that change how the rest of a group is read. -/
inductive Flag where
  | ignoreCase
  | multiLine
  | dotAll
  /-- Repetitions prefer to be short. -/
  | swapGreed
  | unicode
  /-- Lines may end in a carriage return and a line feed. -/
  | crlf
  | ignoreBlanks
  deriving DecidableEq, Repr

def Flag.ofLetter? : Char → Option Flag
  | 'i' => some .ignoreCase
  | 'm' => some .multiLine
  | 's' => some .dotAll
  | 'U' => some .swapGreed
  | 'u' => some .unicode
  | 'R' => some .crlf
  | 'x' => some .ignoreBlanks
  | _ => none

abbrev FlagSettings := List (Flag × Bool)

structure Literal where
  span : Span
  char : Char
  /-- Whether it is given by two digits of base 16, which can also mean a byte. -/
  asByte : Bool := false
  deriving DecidableEq, Repr

inductive Assertion where
  | lineStart
  | lineEnd
  | textStart
  | textEnd
  | wordEdge
  | noWordEdge
  | wordStart
  | wordEnd
  | wordStartHalf
  | wordEndHalf
  deriving DecidableEq, Repr

inductive LetterClass where
  | digit
  | space
  | word
  deriving DecidableEq, Repr

inductive Property where
  | named (name : String)
  | valued (name value : String)
  deriving DecidableEq, Repr

inductive ClassOperation where
  | intersection
  | difference
  | symmetricDifference
  deriving DecidableEq, Repr

inductive ClassItem where
  | empty (span : Span)
  | literal (character : Literal)
  | range (span : Span) (first last : Literal)
  | ascii (span : Span) (negated : Bool) (set : CharSet)
  | property (span : Span) (negated : Bool) (name : Property)
  | letter (span : Span) (negated : Bool) (kind : LetterClass)
  | bracket (span : Span) (negated : Bool) (body : ClassItem)
  | union (span : Span) (items : List ClassItem)
  | operation (span : Span) (kind : ClassOperation) (left right : ClassItem)
  deriving Repr

def ClassItem.span : ClassItem → Span
  | .literal character => character.span
  | .empty span | .range span .. | .ascii span .. | .property span .. | .letter span ..
  | .bracket span .. | .union span .. | .operation span .. => span

inductive Pattern where
  | empty (span : Span)
  | setFlags (span : Span) (settings : FlagSettings)
  | literal (character : Literal)
  | dot (span : Span)
  | assertion (span : Span) (condition : Assertion)
  | property (span : Span) (negated : Bool) (name : Property)
  | letter (span : Span) (negated : Bool) (kind : LetterClass)
  | bracket (span : Span) (negated : Bool) (body : ClassItem)
  | repetition (span : Span) (least : Nat) (greatest : Option Nat) (body : Pattern)
  | capture (span : Span) (body : Pattern)
  | group (span : Span) (settings : FlagSettings) (body : Pattern)
  | sequence (span : Span) (parts : List Pattern)
  | choice (span : Span) (branches : List Pattern)
  deriving Repr

def Pattern.span : Pattern → Span
  | .literal character => character.span
  | .empty span | .setFlags span .. | .dot span | .assertion span .. | .property span ..
  | .letter span .. | .bracket span .. | .repetition span .. | .capture span .. | .group span ..
  | .sequence span .. | .choice span .. => span

/-! How deep a pattern is nested. Whatever has parts is a level of its own: classes, unions and
operations of classes too. -/

mutual

def ClassItem.tooDeep? : Nat → ClassItem → Option Span
  | left, .bracket span _ body =>
    match left with
    | 0 => some span
    | left + 1 => body.tooDeep? left
  | left, .union span items =>
    match left with
    | 0 => some span
    | left + 1 => ClassItem.anyTooDeep? left items
  | left, .operation span _ a b =>
    match left with
    | 0 => some span
    | left + 1 => (a.tooDeep? left).or (b.tooDeep? left)
  | _, _ => none

def ClassItem.anyTooDeep? : Nat → List ClassItem → Option Span
  | _, [] => none
  | left, item :: rest => (item.tooDeep? left).or (ClassItem.anyTooDeep? left rest)

end

mutual

/-- The first part of a pattern that lies deeper than the levels left allow. -/
def Pattern.tooDeep? : Nat → Pattern → Option Span
  | left, .bracket span _ body =>
    match left with
    | 0 => some span
    | left + 1 => body.tooDeep? left
  | left, .repetition span _ _ body | left, .capture span body | left, .group span _ body =>
    match left with
    | 0 => some span
    | left + 1 => body.tooDeep? left
  | left, .sequence span parts | left, .choice span parts =>
    match left with
    | 0 => some span
    | left + 1 => Pattern.anyTooDeep? left parts
  | _, _ => none

def Pattern.anyTooDeep? : Nat → List Pattern → Option Span
  | _, [] => none
  | left, part :: rest => (part.tooDeep? left).or (Pattern.anyTooDeep? left rest)

end

end GroupKey.Regex
