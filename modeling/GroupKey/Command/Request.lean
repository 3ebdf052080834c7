import GroupKey.Command.Similarity
import GroupKey.Text.Utf8

/-!
What a command line asks for.

The command takes no arguments of its own, so the first argument decides: a flag that asks for a
text, or a mistake. Two dashes alone end the flags and ask for nothing, and what follows them is a
mistake whatever it is.
-/

namespace GroupKey.Command

def commandName : String := "derhex2bin"

/-- The flags: each asks for a text in place of a conversion. -/
inductive Flag where
  | help
  | version
  deriving DecidableEq, Repr

namespace Flag

def all : List Flag := [.help, .version]

/-- The word that asks for the text, after two dashes. -/
def word : Flag → String
  | .help => "help"
  | .version => "version"

/-- The letter that asks for the text, after one dash. -/
def letter : Flag → Char
  | .help => 'h'
  | .version => 'V'

def long (flag : Flag) : String := "--" ++ flag.word

/-- Of a flag and the best one before it, the one that a word resembles more, if it resembles any.
Of equally similar ones it is the later. -/
def nearer (word : String) (best : Option Flag) (flag : Flag) : Option Flag :=
  let likeness (flag : Flag) := similarity word.toList flag.word.toList
  if likeness flag > alikeAbove ∧ best.all (likeness flag ≥ likeness ·) then some flag else best

/-- The flag that a word may have been meant for: the one that it resembles most. -/
def near? (word : String) : Option Flag := all.foldl (nearer word) none

end Flag

inductive Misuse where
  /-- An argument that means nothing, and the flag it may have been meant for. -/
  | unexpected (argument : String) (near : Option Flag)
  /-- A value given to a flag, which takes none. -/
  | unneededValue (flag : Flag) (value : String)
  deriving DecidableEq, Repr

inductive Request where
  | convert
  | tell (flag : Flag)
  | refuse (misuse : Misuse)
  deriving DecidableEq, Repr

def dash : UInt8 := 0x2D

/-- The byte between a long flag and its value. -/
def equals : UInt8 := 0x3D

namespace Request

/-- What is asked for by an argument of two dashes and more: a word, perhaps with a value. -/
def ofLong (body : Bytes) : Request :=
  let word := Utf8.lossy (body.takeWhile (· != equals))
  match Flag.all.find? (·.word = word), body.dropWhile (· != equals) with
  | some flag, [] => .tell flag
  | some flag, _ :: value => .refuse (.unneededValue flag (Utf8.lossy value))
  | none, _ => .refuse (.unexpected ("--" ++ word) (Flag.near? word))

/-- What is asked for by an argument of one dash and more: its first letter decides. -/
def ofShort (body : Bytes) : Request :=
  match Utf8.pieces body with
  | .char c :: _ =>
    match Flag.all.find? (·.letter = c) with
    | some flag => .tell flag
    | none => .refuse (.unexpected (String.ofList ['-', c]) none)
  | _ => .refuse (.unexpected ("-" ++ Utf8.lossy body) none)

/-- What is asked for by an argument that is no flag. -/
def ofWord (word : Bytes) : Request := .refuse (.unexpected (Utf8.lossy word) none)

def ofFirst (argument : Bytes) : Request :=
  match argument with
  | first :: second :: rest =>
    if first = dash ∧ second = dash then ofLong rest
    else if first = dash then ofShort (second :: rest)
    else ofWord argument
  | _ => ofWord argument

def ofArguments : List Bytes → Request
  | [] => .convert
  | first :: rest =>
    if first = [dash, dash] then
      match rest with
      | [] => .convert
      | next :: _ => ofWord next
    else ofFirst first

end Request

end GroupKey.Command
