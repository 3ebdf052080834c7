import GroupKey.Regex.CharSet

/-!
Sets of characters as bytes: for each set, the sequences of ranges of bytes whose members together
are the UTF-8 forms of its characters.
-/

namespace GroupKey.Regex

/-- Ranges of bytes, one for each byte of a character. -/
abbrev ByteSequence := List (Nat × Nat)

/-- The greatest numbers of characters of one, two and three bytes. -/
def lengthLimits : List Nat := [0x7F, 0x7FF, 0xFFFF]

/-- Where to cut a range of one length, if its last so many groups of six bits do not go round in
full: after the number that is given. -/
def cutBits? (first last groups : Nat) : Option Nat :=
  let size := 1 <<< (6 * groups)
  if first / size = last / size then none
  else if first % size ≠ 0 then some (first / size * size + (size - 1))
  else if last % size ≠ size - 1 then some (last / size * size - 1)
  else none

def cut? (first last : Nat) : Option Nat :=
  match lengthLimits.find? fun limit => first ≤ limit ∧ limit < last with
  | some limit => some limit
  | none => if last ≤ 0x7F then none else [1, 2, 3].findSome? (cutBits? first last)

def bytesOf (number : Nat) : List Nat :=
  (String.utf8EncodeChar (Char.ofNat number)).map UInt8.toNat

/-- The sequences for a range without surrogates, which is cut at most so many times in depth. -/
def byteSequences : Nat → Nat → Nat → List ByteSequence
  | 0, _, _ => []
  | depth + 1, first, last =>
    match cut? first last with
    | none => [(bytesOf first).zip (bytesOf last)]
    | some cut => byteSequences depth first cut ++ byteSequences depth (cut + 1) last

/-- How often a range may have to be cut: for each length, at both ends of each group of bits. -/
def cutDepth : Nat := 32

namespace CharSet

/-- The sequences for a set. No characters have the numbers of surrogates. -/
def byteSequences (set : CharSet) : List ByteSequence :=
  (set.difference [(0xD800, 0xDFFF)]).flatMap fun range =>
    Regex.byteSequences cutDepth range.1 range.2

end CharSet

end GroupKey.Regex
