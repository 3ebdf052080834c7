import GroupKey.Text.Unprintable
import GroupKey.Text.Utf8

/-!
Quoted forms: characters, texts and raw bytes written so that a reader sees where they begin and
end and what is in them. Controls have short names or numbers in braces, bytes that spell no
character are two digits after `\x`, and the quote that encloses a form is escaped inside it.
-/

namespace GroupKey.Quoted

open GroupKey.Text Utf8

def backslash : Char := '\x5c'

def single : Char := '\x27'

def double : Char := '\x22'

/-- A number in base 16, in lower case and without leading zeros, between braces. -/
def numbered (c : Char) : List Char :=
  [backslash, 'u', '\x7b'] ++ Nat.toDigits 16 c.toNat ++ ['\x7d']

/-- A character as it stands between a pair of the given quotes. -/
def escape (quote c : Char) : List Char :=
  if c = '\x00' then [backslash, '0']
  else if c = '\t' then [backslash, 't']
  else if c = '\r' then [backslash, 'r']
  else if c = '\n' then [backslash, 'n']
  else if c = backslash ∨ c = quote then [backslash, c]
  else if isUnprintable c ∨ isCombining c then numbered c
  else [c]

/-- A byte by its number: two upper-case digits of base 16. -/
def escapeByte (b : UInt8) : List Char :=
  [backslash, 'x', (Nat.digitChar (b.toNat / 16)).toUpper, (Nat.digitChar (b.toNat % 16)).toUpper]

def escapePiece : Piece → List Char
  | .char c => escape double c
  | .junk bytes => bytes.flatMap escapeByte

def char (c : Char) : List Char := single :: escape single c ++ [single]

def text (s : String) : List Char := double :: s.toList.flatMap (escape double) ++ [double]

/-- Raw bytes between double quotes: characters where they spell some, numbers elsewhere. -/
def bytes (bs : Bytes) : List Char := double :: (pieces bs).flatMap escapePiece ++ [double]

end GroupKey.Quoted
