import GroupKey.Regex.Expression
import GroupKey.Regex.Fault
import GroupKey.Regex.Syntax

/-!
From a pattern as it is written to what it means.

The flags in force decide what a part means. Of characters beyond ASCII neither the classes nor the
partners of the other case are known, so where characters are meant and not bytes, a part that asks
for them is refused. Where bytes are meant, a part is refused that could match some of the bytes of
a character.
-/

namespace GroupKey.Regex

structure Flags where
  ignoreCase : Bool := false
  multiLine : Bool := false
  dotAll : Bool := false
  unicode : Bool := true
  crlf : Bool := false
  deriving DecidableEq, Repr

namespace Flags

/-- The flags with one of them set or not. Those that make no difference to a match are left out. -/
def put (flags : Flags) : Flag × Bool → Flags
  | (.ignoreCase, value) => { flags with ignoreCase := value }
  | (.multiLine, value) => { flags with multiLine := value }
  | (.dotAll, value) => { flags with dotAll := value }
  | (.unicode, value) => { flags with unicode := value }
  | (.crlf, value) => { flags with crlf := value }
  | (.swapGreed, _) | (.ignoreBlanks, _) => flags

def putAll (flags : Flags) (settings : FlagSettings) : Flags := settings.foldl put flags

end Flags

abbrev Meaning := Except LocatedFault

def refuse {α : Type} (fault : Fault) (span : Span) : Meaning α := throw ⟨fault, span⟩

/-- The character that a literal stands for. A byte that is no ASCII character is refused. -/
def Literal.meaning (flags : Flags) (literal : Literal) : Meaning Char :=
  if !flags.unicode ∧ literal.asByte ∧ 0x80 ≤ literal.char.toNat then
    refuse .invalidUtf8 literal.span
  else return literal.char

def Literal.memberMeaning (flags : Flags) (literal : Literal) : Meaning Nat := do
  let c ← literal.meaning flags
  if !flags.unicode ∧ 0x80 ≤ c.toNat then refuse .unicodeForbidden literal.span
  return c.toNat

/-- A set with the letters of the other case, if case is ignored; `known` tells that it holds them
already. -/
def withCase (flags : Flags) (span : Span) (known : Bool) (set : CharSet) : Meaning CharSet :=
  if !flags.ignoreCase then return set
  else if !flags.unicode then return set.withOtherCase
  else if known then return set
  else refuse .caseUnknown span

/-- A set, or its complement, which holds characters beyond ASCII. -/
def negating (flags : Flags) (span : Span) (negated : Bool) (set : CharSet) : Meaning CharSet :=
  if !negated then return set
  else if flags.unicode then return set.complement
  else refuse .invalidUtf8 span

def LetterClass.ascii : LetterClass → CharSet
  | .digit => [(0x30, 0x39)]
  | .space => [(0x09, 0x0D), (0x20, 0x20)]
  | .word => [(0x30, 0x39), (0x41, 0x5A), (0x5F, 0x5F), (0x61, 0x7A)]

def LetterClass.meaning (flags : Flags) (span : Span) (negated : Bool) (kind : LetterClass) :
    Meaning CharSet :=
  if flags.unicode then refuse .letterClassUnknown span
  else negating flags span negated kind.ascii

/-- The name of a property without case, blanks and dashes, and without a leading `is`. -/
def Property.plainName (name : String) : List Char :=
  let name := name.toList
  let rest := if (name.take 2).map Char.toLower = ['i', 's'] then name.drop 2 else name
  (rest.filter fun c => c ∉ [' ', '_', '-'] && c.toNat < 0x80).map Char.toLower

/-- What is wrong with a property. None is known; three names can only be those of categories, which
are values of a property. -/
def Property.fault : Property → Fault
  | .valued .. => .propertyUnknown
  | .named name =>
    if plainName name ∈ [['c', 'f'], ['s', 'c'], ['l', 'c']] then .propertyValueUnknown
    else .propertyUnknown

def Property.meaning (flags : Flags) (span : Span) (name : Property) : Meaning CharSet :=
  if flags.unicode then refuse name.fault span else refuse .unicodeForbidden span

def ClassOperation.apply : ClassOperation → CharSet → CharSet → CharSet
  | .intersection => CharSet.inter
  | .difference => CharSet.difference
  | .symmetricDifference => CharSet.symmetricDifference

namespace ClassItem

mutual

/-- Whether an item has characters whose partners of the other case are still to be added. -/
def hasCharacters : ClassItem → Bool
  | .literal _ | .range .. => true
  | .union _ items => anyHasCharacters items
  | _ => false

def anyHasCharacters : List ClassItem → Bool
  | [] => false
  | item :: rest => item.hasCharacters || anyHasCharacters rest

end

mutual

def meaning (flags : Flags) : ClassItem → Meaning CharSet
  | .empty _ => return []
  | .literal character => do
    let c ← character.memberMeaning flags
    return [(c, c)]
  | .range _ first last => do return [(← first.memberMeaning flags, ← last.memberMeaning flags)]
  | .ascii span negated set => do negating flags span negated (← withCase flags span false set)
  | .property span _ name => name.meaning flags span
  | .letter span negated kind => kind.meaning flags span negated
  | .bracket span negated body => do
    let set ← meaning flags body
    negating flags span negated (← withCase flags span (!body.hasCharacters) set)
  | .union _ items => meaningOfAll flags items
  | .operation _ kind left right => do
    let a ← meaning flags left
    let b ← meaning flags right
    let b ← withCase flags right.span (!right.hasCharacters) b
    let a ← withCase flags left.span (!left.hasCharacters) a
    return kind.apply a b

def meaningOfAll (flags : Flags) : List ClassItem → Meaning CharSet
  | [] => return []
  | item :: rest => do
    let a ← meaning flags item
    return a.union (← meaningOfAll flags rest)

end

end ClassItem

def Literal.expr (flags : Flags) (literal : Literal) : Meaning Expr := do
  let c ← literal.meaning flags
  if !flags.ignoreCase then return .one (.singleton c)
  else if flags.unicode then refuse .caseUnknown literal.span
  else return .one (CharSet.singleton c).withOtherCase

/-- The meaning of a dot: any character, but only with its flag one that ends a line. -/
def dotMeaning (flags : Flags) (span : Span) : Meaning Expr :=
  if !flags.unicode then refuse .invalidUtf8 span
  else if flags.dotAll then return .one (CharSet.complement [])
  else if flags.crlf then return .one (CharSet.complement [(0x0A, 0x0A), (0x0D, 0x0D)])
  else return .one (CharSet.complement [(0x0A, 0x0A)])

def Assertion.look (flags : Flags) : Assertion → Look
  | .lineStart =>
    if !flags.multiLine then .start
    else if flags.crlf then .lineStartCrlf
    else .lineStart
  | .lineEnd =>
    if !flags.multiLine then .stop
    else if flags.crlf then .lineEndCrlf
    else .lineEnd
  | .textStart => .start
  | .textEnd => .stop
  | .wordEdge => .edge flags.unicode true
  | .noWordEdge => .edge flags.unicode false
  | .wordStart => .word flags.unicode (some false) (some true)
  | .wordEnd => .word flags.unicode (some true) (some false)
  | .wordStartHalf => .word flags.unicode (some false) none
  | .wordEndHalf => .word flags.unicode none (some false)

namespace Pattern

mutual

/-- The meaning of a pattern under some flags, and the flags after it. -/
def meaning : Pattern → Flags → Meaning (Expr × Flags)
  | .empty _, flags => return (.empty, flags)
  | .setFlags _ settings, flags => return (.empty, flags.putAll settings)
  | .literal character, flags => return (← character.expr flags, flags)
  | .dot span, flags => return (← dotMeaning flags span, flags)
  | .assertion _ condition, flags => return (.look (condition.look flags), flags)
  | .property span _ name, flags => return (.one (← name.meaning flags span), flags)
  | .letter span negated kind, flags => return (.one (← kind.meaning flags span negated), flags)
  | .bracket span negated body, flags => do
    return (.one (← (ClassItem.bracket span negated body).meaning flags), flags)
  | .repetition _ least greatest body, flags => do
    let (expr, flags) ← meaning body flags
    return (.repetition least greatest expr, flags)
  | .capture _ body, flags => return (.capture (← meaning body flags).1, flags)
  | .group _ settings body, flags => return ((← meaning body (flags.putAll settings)).1, flags)
  | .sequence _ parts, flags => do
    let (exprs, flags) ← meanings parts flags
    return (.sequence exprs, flags)
  | .choice _ branches, flags => do
    let (exprs, flags) ← meanings branches flags
    return (.choice exprs, flags)

def meanings : List Pattern → Flags → Meaning (List Expr × Flags)
  | [], flags => return ([], flags)
  | part :: rest, flags => do
    let (expr, flags) ← meaning part flags
    let (exprs, flags) ← meanings rest flags
    return (expr :: exprs, flags)

end

end Pattern

end GroupKey.Regex
