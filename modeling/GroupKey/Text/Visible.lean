/-!
Texts without what drives a terminal.

A terminal acts on some characters instead of showing them: controls, and sequences that an escape
begins. `visible` keeps the characters that are shown and those that move to another place on the
page. A sequence is followed to its end as a terminal would, so its letters and digits go with it.
The controls that lay a text out are shown wherever a terminal would carry them out, and after one
of them characters are shown again, even inside a sequence.
-/

namespace GroupKey.Text

inductive Sequence where
  | outside
  | escape
  /-- After an escape and characters that say what kind of final one is meant. -/
  | escapeIntermediate
  | control
  /-- At the start of a string for a device. -/
  | deviceEntry
  | deviceParameter
  /-- Before the final character that opens a string for a device. -/
  | deviceIntermediate
  /-- In a command for the system that the terminal is part of. -/
  | command
  | string
  deriving DecidableEq, Repr

def escapeCharacter : Char := '\x1b'

def bell : Char := '\x07'

def stringTerminator : UInt8 := 0x9C

namespace Sequence

/-- What the character after an escape begins. Characters beyond ASCII are passed over. -/
def begun (c : Char) : Sequence :=
  if c = '[' then .control
  else if c = ']' then .command
  else if c = 'P' then .deviceEntry
  else if c ∈ ['X', '^', '_'] then .string
  else if ' ' ≤ c ∧ c ≤ '/' then .escapeIntermediate
  else if '0' ≤ c ∧ c ≤ '~' then .outside
  else .escape

/-- Where the terminal stands after one more character, which it does not show. -/
def after (place : Sequence) (c : Char) : Sequence :=
  if c = escapeCharacter then .escape
  else if c = '\x18' ∨ c = '\x1a' then .outside
  else
    match place with
    | .outside => .outside
    | .escape => begun c
    | .escapeIntermediate => if '0' ≤ c ∧ c ≤ '~' then .outside else .escapeIntermediate
    | .control => if '@' ≤ c ∧ c ≤ '~' then .outside else .control
    | .deviceEntry =>
      if ' ' ≤ c ∧ c ≤ '/' then .deviceIntermediate
      else if c = ':' ∨ '@' ≤ c ∧ c ≤ '~' then .string
      else if '0' ≤ c ∧ c ≤ '?' then .deviceParameter
      else .deviceEntry
    | .deviceParameter =>
      if ' ' ≤ c ∧ c ≤ '/' then .deviceIntermediate
      else if c = ':' ∨ '<' ≤ c ∧ c ≤ '~' then .string
      else .deviceParameter
    | .deviceIntermediate => if '0' ≤ c ∧ c ≤ '~' then .string else .deviceIntermediate
    | .command => if c = bell then .outside else .command
    | .string => if stringTerminator ∈ String.utf8EncodeChar c then .outside else .string

/-- Whether controls are carried out in passing. They wait for the end of a string. -/
def heedsControls : Sequence → Bool
  | .outside | .escape | .escapeIntermediate | .control => true
  | _ => false

end Sequence

def isLayout (c : Char) : Bool := c ∈ ['\t', '\n', '\x0c', '\r']

/-- The characters that are not controls. The C1 controls count as characters. -/
def isGraphic (c : Char) : Bool := ' ' ≤ c && c ≠ '\x7f'

structure Terminal where
  place : Sequence := .outside
  /-- Whether it has been showing characters since. -/
  showing : Bool := false
  deriving DecidableEq, Repr

namespace Terminal

def shows (terminal : Terminal) (c : Char) : Bool :=
  if terminal.showing ∨ terminal.place = .outside then isGraphic c || isLayout c
  else terminal.place.heedsControls && isLayout c

/-- The terminal after one more character. One beyond ASCII ends the sequence it is shown in. -/
def step (terminal : Terminal) (c : Char) : Terminal :=
  if terminal.shows c then ⟨if c.toNat < 0x80 then terminal.place else .outside, true⟩
  else ⟨terminal.place.after c, false⟩

def shown (terminal : Terminal) : List Char → List Char
  | [] => []
  | c :: rest =>
    if terminal.shows c then c :: (terminal.step c).shown rest else (terminal.step c).shown rest

end Terminal

namespace Terminal

/-- A text without controls, but for those that lay it out, is shown as it is. -/
theorem shown_eq_self {text : List Char} {terminal : Terminal}
    (outside : terminal.place = .outside) (plain : ∀ c ∈ text, isGraphic c || isLayout c) :
    terminal.shown text = text := by
  induction text generalizing terminal with
  | nil => rfl
  | cons c rest ih =>
    have first : terminal.shows c := by simp [shows, outside, plain c (by simp)]
    have still : (terminal.step c).place = .outside := by simp [step, first, outside]
    rw [shown, if_pos first, ih still fun d member => plain d (by simp [member])]

end Terminal

def visible (text : String) : String := String.ofList (Terminal.shown {} text.toList)

end GroupKey.Text
