import GroupKey.Text.Unprintable

/-!
Sets of characters, as ranges of their numbers.

The ranges of a set are kept in rising order and apart from each other, so that the complement is
made of the gaps between them.
-/

namespace GroupKey.Regex

/-- A set of characters: the first and last numbers of its ranges. -/
abbrev CharSet := List (Nat × Nat)

namespace CharSet

def greatest : Nat := 0x10FFFF

def insert (first last : Nat) : CharSet → CharSet
  | [] => [(first, last)]
  | (a, b) :: rest =>
    if last + 1 < a then (first, last) :: (a, b) :: rest
    else if b + 1 < first then (a, b) :: insert first last rest
    else insert (min first a) (max last b) rest

def singleton (c : Char) : CharSet := [(c.toNat, c.toNat)]

def union (a b : CharSet) : CharSet := b.foldl (fun set range => set.insert range.1 range.2) a

/-- The numbers from one on that are in none of the ranges. -/
def gaps : Nat → CharSet → CharSet
  | start, [] => if start ≤ greatest then [(start, greatest)] else []
  | start, (a, b) :: rest =>
    if start < a then (start, a - 1) :: gaps (b + 1) rest else gaps (b + 1) rest

def complement (set : CharSet) : CharSet := gaps 0 set

def inter (a b : CharSet) : CharSet := (a.complement.union b.complement).complement

def difference (a b : CharSet) : CharSet := a.inter b.complement

def symmetricDifference (a b : CharSet) : CharSet := (a.difference b).union (b.difference a)

def contains (set : CharSet) (c : Char) : Bool := Text.inRanges c.toNat set

def isAscii (set : CharSet) : Bool := set.all fun range => range.2 < 0x80

def single? : CharSet → Option Nat
  | [(first, last)] => if first = last then some first else none
  | _ => none

/-- What comes of the part of a set between two numbers when it is moved. -/
def moved (set : CharSet) (low high : Nat) (move : Nat → Nat) : CharSet :=
  (set.inter [(low, high)]).map fun range => (move range.1, move range.2)

def withOtherCase (set : CharSet) : CharSet :=
  (set.union (set.moved 'A'.toNat 'Z'.toNat (· + 32))).union
    (set.moved 'a'.toNat 'z'.toNat (· - 32))

end CharSet

end GroupKey.Regex
