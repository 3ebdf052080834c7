import GroupKey.Regex.CharSet

/-!
What a pattern means: which places of a text it leads to.

An expression, begun at some places of a text, ends at some places; a text matches if there is an
end at all. Sets of places are numbers, place `p` being the binary digit `p`, so that a step by
one character is a multiplication by two.
-/

namespace GroupKey.Regex

/-- Conditions on a place of a text. Those on words tell whether letters beyond ASCII are meant to
make words too. -/
inductive Look where
  | start
  | stop
  | lineStart
  | lineEnd
  /-- The start of a line that may follow a carriage return and a line feed. -/
  | lineStartCrlf
  /-- The end of a line before a carriage return and a line feed perhaps. -/
  | lineEndCrlf
  /-- Whether there is a word before and after, where that matters. -/
  | word (unicode : Bool) (before after : Option Bool)
  /-- Whether there is a word on one side only. -/
  | edge (unicode : Bool) (expected : Bool)
  deriving DecidableEq, Repr

def isWordCharacter (c : Char) : Bool := c.isAlphanum || c = '_'

namespace Look

/-- Whether a condition holds of a place, given the characters before and after it. Words are those
of ASCII. -/
def holds (before after : Option Char) : Look → Bool
  | .start => before.isNone
  | .stop => after.isNone
  | .lineStart => before.all (· = '\n')
  | .lineEnd => after.all (· = '\n')
  | .lineStartCrlf => before.all fun c => c = '\n' || (c = '\r' && after ≠ some '\n')
  | .lineEndCrlf => after.all fun c => c = '\r' || (c = '\n' && before ≠ some '\r')
  | .word _ left right =>
    left.all (· = before.any isWordCharacter) && right.all (· = after.any isWordCharacter)
  | .edge _ expected => (before.any isWordCharacter != after.any isWordCharacter) = expected

def unicode : Look → Bool
  | .word unicode _ _ | .edge unicode _ => unicode
  | _ => false

end Look

inductive Expr where
  | empty
  | one (set : CharSet)
  | look (condition : Look)
  /-- An expression so many times, without a greatest number perhaps. -/
  | repetition (least : Nat) (greatest : Option Nat) (body : Expr)
  | capture (body : Expr)
  | sequence (parts : List Expr)
  | choice (branches : List Expr)
  deriving Repr

/-- Sets of places of a text: the places are the binary digits that are one. -/
abbrev Places := Nat

namespace Places

/-- The places of which something holds, given the characters before and after each, from the start
of a text on. -/
def those (holds : Option Char → Option Char → Bool) : Option Char → List Char → Places
  | before, [] => if holds before none then 1 else 0
  | before, c :: rest =>
    (if holds before (some c) then 1 else 0) + 2 * those holds (some c) rest

/-- The places that a step leads to, taken so many times. Once a step changes nothing, none after it
does. -/
def iterate (step : Places → Places) : Nat → Places → Places
  | 0, places => places
  | count + 1, places =>
    let next := step places
    if next = places then places else iterate step count next

/-- The places that a step leads to, taken at most so many times, from those that have been reached
last. -/
def spread (step : Places → Places) : Nat → Places → Places → Places
  | 0, reached, _ => reached
  | most + 1, reached, last =>
    let all := reached ||| step last
    if all = reached then reached else spread step most all (all ^^^ reached)

end Places

namespace Expr

mutual

/-- The places of a text where an expression ends that begins at one of the given places. A step
that goes on cannot be taken more often than there are characters, so counts beyond that make no
difference. -/
def ends (text : List Char) : Expr → Places → Places
  | .empty, places => places
  | .one set, places => 2 * (places &&& .those (fun _ after => after.any set.contains) none text)
  | .look condition, places => places &&& .those (fun b a => condition.holds b a) none text
  | .repetition least greatest body, places =>
    let bound := text.length + 1
    let first := Places.iterate (ends text body) (min least bound) places
    let more := greatest.elim bound fun greatest => min (greatest - least) bound
    Places.spread (ends text body) more first first
  | .capture body, places => ends text body places
  | .sequence parts, places => endsOfAll text parts places
  | .choice branches, places => endsOfAny text branches places

def endsOfAll (text : List Char) : List Expr → Places → Places
  | [], places => places
  | part :: rest, places => endsOfAll text rest (ends text part places)

def endsOfAny (text : List Char) : List Expr → Places → Places
  | [], _ => 0
  | branch :: rest, places => ends text branch places ||| endsOfAny text rest places

end

def matchesIn (expr : Expr) (text : String) : Bool :=
  expr.ends text.toList (1 <<< (text.length + 1) - 1) ≠ 0

end Expr

end GroupKey.Regex
