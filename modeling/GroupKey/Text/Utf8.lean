import GroupKey.Bytes

/-!
UTF-8 over arbitrary bytes.

`pieces` cuts any byte string into characters and junk. A stretch of junk is as long as the start
of some character can be, and no longer: a byte that could begin a character is never swallowed.
`decode?` reads the bytes that are junk-free, `lossy` shows any bytes as text.
-/

namespace GroupKey.Utf8

def encode (text : String) : Bytes := text.toList.flatMap String.utf8EncodeChar

inductive Piece where
  | char (c : Char)
  /-- Bytes that spell no character, cut as late as the start of one allows. -/
  | junk (bytes : Bytes)
  deriving DecidableEq, Repr

def Piece.bytes : Piece → Bytes
  | .char c => String.utf8EncodeChar c
  | .junk bytes => bytes

/-- A character of several bytes that has been read in part. -/
structure Pending where
  read : Bytes
  /-- The number that their payload bits make. -/
  value : Nat
  least : Nat
  greatest : Nat
  /-- How many bytes follow the next one. -/
  after : Nat
  deriving DecidableEq, Repr

/-- A reader stands between characters or inside one. -/
abbrev State := Option Pending

/-- The first byte of a character, read between characters. The narrow ranges after E0, ED, F0 and
F4 leave out longer spellings of short characters, surrogates, and numbers above 10FFFF. -/
def lead (b : UInt8) : List Piece × State :=
  let n := b.toNat
  if n < 0x80 then ([.char (Char.ofNat n)], none)
  else if n < 0xC2 then ([.junk [b]], none)
  else if n < 0xE0 then ([], some ⟨[b], n - 0xC0, 0x80, 0xBF, 0⟩)
  else if n = 0xE0 then ([], some ⟨[b], 0, 0xA0, 0xBF, 1⟩)
  else if n = 0xED then ([], some ⟨[b], 0xD, 0x80, 0x9F, 1⟩)
  else if n < 0xF0 then ([], some ⟨[b], n - 0xE0, 0x80, 0xBF, 1⟩)
  else if n = 0xF0 then ([], some ⟨[b], 0, 0x90, 0xBF, 2⟩)
  else if n < 0xF4 then ([], some ⟨[b], n - 0xF0, 0x80, 0xBF, 2⟩)
  else if n = 0xF4 then ([], some ⟨[b], 4, 0x80, 0x8F, 2⟩)
  else ([.junk [b]], none)

/-- One byte: the pieces that end before or with it, and where the reader stands after it. A byte
that the character under way cannot take ends that character as junk and is read afresh. -/
def step : State → UInt8 → List Piece × State
  | none, b => lead b
  | some p, b =>
    let n := b.toNat
    if p.least ≤ n ∧ n ≤ p.greatest then
      let value := p.value * 64 + (n - 0x80)
      match p.after with
      | 0 => ([.char (Char.ofNat value)], none)
      | more + 1 => ([], some ⟨p.read ++ [b], value, 0x80, 0xBF, more⟩)
    else
      (.junk p.read :: (lead b).1, (lead b).2)

/-- The end of the data leaves a character under way as junk. -/
def finish : State → List Piece
  | none => []
  | some p => [.junk p.read]

def scan (state : State) : Bytes → List Piece
  | [] => finish state
  | b :: rest => (step state b).1 ++ scan (step state b).2 rest

def pieces (bytes : Bytes) : List Piece := scan none bytes

def Piece.char? : Piece → Option Char
  | .char c => some c
  | .junk _ => none

def decode? (bytes : Bytes) : Option String :=
  ((pieces bytes).mapM Piece.char?).map String.ofList

def replacement : Char := '\ufffd'

def Piece.shown : Piece → Char
  | .char c => c
  | .junk _ => replacement

/-- The bytes as text: each stretch of junk becomes one replacement character. -/
def lossy (bytes : Bytes) : String := String.ofList ((pieces bytes).map Piece.shown)

end GroupKey.Utf8
