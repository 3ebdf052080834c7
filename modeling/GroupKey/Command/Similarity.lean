/-!
How alike two words are.

Letters of two words match when they are equal and not too far apart in their words; matching
letters that come in different orders are out of place. The similarity is the mean of three shares:
of each word the part that matches, and of the matching letters the part in place.
-/

namespace GroupKey.Command

/-- How far apart matching letters may stand, in words of these lengths. -/
def reach (a b : Nat) : Nat := max a b / 2 - 1

/-- The first position from which a letter may be matched, given the letters that are still free as
`some`: the first one from `low` to `high`, both counted from `position`. -/
def firstFree (letter : Char) (low high : Nat) : Nat → List (Option Char) → Option Nat
  | _, [] => none
  | position, candidate :: rest =>
    if high < position then none
    else if low ≤ position ∧ candidate = some letter then some position
    else firstFree letter low high (position + 1) rest

/-- Matches the letters of a word, of which `position` is the first, with free letters of another
word: the letters that found a match in order, and the other word with the matched letters taken. -/
def matchLetters (within : Nat) : Nat → List Char → List (Option Char) →
    List Char × List (Option Char)
  | _, [], free => ([], free)
  | position, letter :: rest, free =>
    match firstFree letter (position - within) (position + within) 0 free with
    | none => matchLetters within (position + 1) rest free
    | some found =>
      let (matched, left) := matchLetters within (position + 1) rest (free.set found none)
      (letter :: matched, left)

def taken (word : List Char) (free : List (Option Char)) : List Char :=
  (word.zip free).filterMap fun (letter, slot) => if slot.isNone then some letter else none

/-- The similarity of two words, from zero to one in floating point. Words without letters in common
are not alike at all, and two empty words are alike altogether. -/
def similarity (a b : List Char) : Float :=
  if a = [] ∧ b = [] then 1.0
  else
    let (matched, free) := matchLetters (reach a.length b.length) 0 a (b.map some)
    let common := matched.length
    if common = 0 then 0.0
    else
      let misplaced := ((matched.zip (taken b free)).filter fun (x, y) => x ≠ y).length / 2
      (common.toFloat / a.length.toFloat + common.toFloat / b.length.toFloat
        + (common - misplaced).toFloat / common.toFloat) / 3.0

/-- Words are so alike that one may have been meant for the other if their similarity is above this
bound. -/
def alikeAbove : Float := 0.7

end GroupKey.Command
