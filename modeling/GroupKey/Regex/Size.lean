import GroupKey.Regex.ByteRanges
import GroupKey.Regex.Expression

/-!
How large a pattern is: the memory that an automaton for it takes.

An automaton reads bytes, forward or backward. It has a state for each range of bytes, for each
condition and for each place where ways part or meet. A repetition by a count holds its body as
often as the count tells, so a short pattern can be very large.
-/

namespace GroupKey.Regex

inductive Direction where
  | forward
  | backward
  deriving DecidableEq, Repr

def stateSize : Nat := 32

/-- The bytes that each way out of a state takes where ways part. -/
def waySize : Nat := 4

/-- The bytes that each of several ranges of a state takes. -/
def rangeSize : Nat := 8

def rangesSize (count : Nat) : Nat :=
  if count = 1 then stateSize else stateSize + rangeSize * count

def waysSize (count : Nat) : Nat := stateSize + waySize * count

/-- What may follow each of the first ranges of some sequences, in which equal first ranges stand
together. -/
def followers : List ByteSequence → List (List ByteSequence)
  | [] => []
  | [] :: rest => followers rest
  | (range :: more) :: rest =>
    match rest, followers rest with
    | (next :: _) :: _, first :: others =>
      if next = range then (more :: first) :: others else [more] :: first :: others
    | _, found => [more] :: found

/-- What may follow a part of some sequences, of at most so many bytes. -/
def allFollowers : Nat → List ByteSequence → List (List ByteSequence)
  | 0, _ => []
  | length + 1, sequences =>
    (followers sequences).flatMap fun rest =>
      if rest.all List.isEmpty then [] else rest :: allFollowers length rest

def beginnings (sequence : ByteSequence) : List ByteSequence :=
  (List.range sequence.length).map fun length => sequence.take (length + 1)

def longest : Nat := 4

/-- The size of an automaton for one character of a set. Forward, states with the same ways on are
shared; backward, those with the same way there. -/
def CharSet.size (direction : Direction) (set : CharSet) : Nat :=
  match set.single? with
  | some number => stateSize * (bytesOf number).length
  | none =>
    if set.isAscii then stateSize + rangesSize set.length
    else
      let sequences := set.byteSequences
      match direction with
      | .forward =>
        let states := (sequences :: allFollowers longest sequences).eraseDups
        states.foldl (fun size state => size + rangesSize (followers state).length) stateSize
      | .backward =>
        waysSize sequences.length + stateSize +
          stateSize * (sequences.flatMap beginnings).eraseDups.length

/-- What matters of an expression for the size of a larger one. -/
structure Weight where
  size : Nat
  /-- Whether it asks for nothing at all. -/
  void : Bool := false
  zeroWidth : Bool := false
  nullable : Bool := false
  /-- The characters that it stands for, if it stands for one at a time. -/
  set : Option CharSet := none

namespace Weight

def nothing : Weight := { size := stateSize, void := true, zeroWidth := true, nullable := true }

def ofSet (direction : Direction) (set : CharSet) : Weight :=
  { size := set.size direction, set := some set }

def condition : Weight := { size := stateSize, zeroWidth := true, nullable := true }

def totalSize (parts : List Weight) : Nat := parts.foldl (fun size part => size + part.size) 0

def sequence (parts : List Weight) : Weight :=
  match parts.filter fun part => !part.void with
  | [] => nothing
  | [part] => part
  | several =>
    { size := totalSize several
      zeroWidth := several.all Weight.zeroWidth
      nullable := several.all Weight.nullable }

/-- One of several expressions. Sets of characters come together as one set, but not those that have
one member with those that have several. -/
def choice (direction : Direction) (branches : List Weight) : Weight :=
  let apart : Weight :=
    { size := waysSize branches.length + stateSize + totalSize branches
      zeroWidth := branches.all Weight.zeroWidth
      nullable := branches.any Weight.nullable }
  match branches.mapM Weight.set with
  | none => apart
  | some sets =>
    let singles := sets.map fun set => set.single?.isSome
    if singles.all id ∨ singles.all not then ofSet direction (sets.foldl CharSet.union [])
    else apart

/-- A group whose match is kept: its two ends are noted on the way forward. -/
def capture (direction : Direction) (body : Weight) : Weight :=
  let ends := if direction = .forward then 2 * stateSize else 0
  { body with size := body.size + ends, void := false, set := none }

def atLeast (least : Nat) (body : Weight) : Weight :=
  let size :=
    match least with
    | 0 =>
      if body.nullable then body.size + 2 * waysSize 2 + stateSize else body.size + waysSize 2
    | least => least * body.size + waysSize 2
  { size, nullable := least = 0 || body.nullable }

def between (least greatest : Nat) (body : Weight) : Weight :=
  let extra := (greatest - least) * (body.size + waysSize 2)
  let size :=
    if least = greatest then least * body.size
    else if least = 0 ∧ greatest ≠ 1 then stateSize + extra + stateSize
    else least * body.size + extra + stateSize
  { size, zeroWidth := body.zeroWidth, nullable := least = 0 || body.nullable }

/-- An expression so many times. One whose matches are empty need not be there more than once. -/
def repetition (least : Nat) (greatest : Option Nat) (body : Weight) : Weight :=
  let least := if body.zeroWidth then min least 1 else least
  let greatest := if body.zeroWidth then some (min (greatest.getD 1) 1) else greatest
  match greatest with
  | none => atLeast least body
  | some greatest =>
    if greatest = 0 then nothing
    else if least = 1 ∧ greatest = 1 then body
    else between least greatest body

end Weight

namespace Expr

mutual

def weight (direction : Direction) : Expr → Weight
  | .empty => .nothing
  | .one set => .ofSet direction set
  | .look _ => .condition
  | .repetition least greatest body => (weight direction body).repetition least greatest
  | .capture body => (weight direction body).capture direction
  | .sequence parts => .sequence (weights direction parts)
  | .choice branches => .choice direction (weights direction branches)

def weights (direction : Direction) : List Expr → List Weight
  | [] => []
  | part :: rest => weight direction part :: weights direction rest

end

/-- The size of an automaton that looks for an expression anywhere: it passes over bytes first, keeps
what it finds, and has a last state. -/
def size (direction : Direction) (expr : Expr) : Nat :=
  (waysSize 2 + 2 * stateSize) + ((expr.weight direction).capture direction).size + stateSize

mutual

/-- Whether an expression that can be met asks for the edges of words beyond ASCII. -/
def asksForUnicodeWords : Expr → Bool
  | .look condition => condition.unicode
  | .repetition _ greatest body => greatest ≠ some 0 && asksForUnicodeWords body
  | .capture body => asksForUnicodeWords body
  | .sequence parts | .choice parts => anyAsksForUnicodeWords parts
  | .empty | .one _ => false

def anyAsksForUnicodeWords : List Expr → Bool
  | [] => false
  | part :: rest => asksForUnicodeWords part || anyAsksForUnicodeWords rest

end

end Expr

end GroupKey.Regex
