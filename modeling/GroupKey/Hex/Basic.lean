import GroupKey.Text.Numeral
import GroupKey.Text.Quoted
import GroupKey.Text.Spelled

/-!
Hexadecimal text.

Two digits, the high one first, make a byte; either case of a letter will do, and nothing but
digits is taken. `decode` answers with the bytes, or with the first thing wrong: an odd number of
digits is noticed before any of them is looked at, and then the leftmost byte that is no digit.
-/

namespace GroupKey.Hex

inductive Defect where
  | oddLength
  /-- The number of digits is not the one expected. -/
  | invalidLength
  /-- A character that is no digit, and how many bytes stand before it. -/
  | badDigit (c : Char) (index : Nat)
  deriving DecidableEq, Repr

def digit? (b : UInt8) : Option Nat :=
  let n := b.toNat
  if 0x30 ≤ n ∧ n ≤ 0x39 then some (n - 0x30)
  else if 0x41 ≤ n ∧ n ≤ 0x46 then some (n - 0x41 + 10)
  else if 0x61 ≤ n ∧ n ≤ 0x66 then some (n - 0x61 + 10)
  else none

/-- A byte that is no digit, at the given position. A byte is named by the character whose number
it is, whatever the text around it spells. -/
def Defect.atByte (b : UInt8) (index : Nat) : Defect := .badDigit (Char.ofNat b.toNat) index

/-- The bytes that pairs of digits make, where `index` bytes stand before the first pair. -/
def decodePairs (index : Nat) : Bytes → Except Defect Bytes
  | [] => .ok []
  | [_] => .error .oddLength
  | high :: low :: rest =>
    match digit? high, digit? low with
    | none, _ => .error (.atByte high index)
    | some _, none => .error (.atByte low (index + 1))
    | some h, some l => (decodePairs (index + 2) rest).map (UInt8.ofNat (16 * h + l) :: ·)

def decode (text : String) : Except Defect Bytes :=
  let digits := Utf8.encode text
  if digits.length % 2 = 1 then .error .oddLength else decodePairs 0 digits

def Defect.message : Defect → String
  | .oddLength => "Odd number of digits"
  | .invalidLength => "Invalid string length"
  | .badDigit c index =>
    "Invalid character " ++ String.ofList (Quoted.char c) ++ " at position " ++ decimal index

def Defect.spelled : Defect → List Char
  | .oddLength => "OddLength".toList
  | .invalidLength => "InvalidStringLength".toList
  | .badDigit c index =>
    Spelled.record "InvalidHexCharacter"
      [Spelled.part "c" (Quoted.char c), Spelled.part "index" (decimal index).toList]

end GroupKey.Hex
