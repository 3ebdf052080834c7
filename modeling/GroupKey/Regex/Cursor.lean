import GroupKey.Regex.Fault
import GroupKey.Text.Blank

/-!
Reading a pattern from its start to its end, character by character. Where blanks are not meant,
they and comments are passed over between the parts of the pattern; a comment begins with a number
sign and ends with its line.
-/

namespace GroupKey.Regex

structure Cursor where
  rest : List Char
  place : Place := {}
  skipping : Bool := false
  names : List (String × Span) := []

namespace Cursor

def advance (cursor : Cursor) : Cursor :=
  match cursor.rest with
  | [] => cursor
  | c :: rest => { cursor with rest, place := cursor.place.after c }

/-- What comes after blanks and comments, and where; the start may lie in a comment. -/
def behindBlanks : Bool → List Char → Place → List Char × Place
  | _, [], place => ([], place)
  | true, c :: rest, place => behindBlanks (c ≠ '\n') rest (place.after c)
  | false, c :: rest, place =>
    if Text.isBlank c then behindBlanks false rest (place.after c)
    else if c = '#' then behindBlanks true rest (place.after c)
    else (c :: rest, place)

/-- The cursor behind blanks and comments, if they are passed over. -/
def skip (cursor : Cursor) : Cursor :=
  if cursor.skipping then
    let (rest, place) := behindBlanks false cursor.rest cursor.place
    { cursor with rest, place }
  else cursor

/-- The longest run of characters of a kind, of at most so many, and the cursor behind it. -/
def run (move : Cursor → Cursor) (kind : Char → Bool) : Nat → Cursor → List Char × Cursor
  | 0, cursor => ([], cursor)
  | most + 1, cursor =>
    match cursor.rest with
    | [] => ([], cursor)
    | c :: _ =>
      if kind c then
        let (found, behind) := run move kind most (move cursor)
        (c :: found, behind)
      else ([], cursor)

end Cursor

abbrev Read := StateT Cursor (Except LocatedFault)

def fail {α : Type} (fault : Fault) (span : Span) : Read α := throw ⟨fault, span⟩

def here : Read Place := return (← get).place

def since (start : Place) : Read Span := return ⟨start, ← here⟩

def nothingHere : Read Span := return .empty (← here)

def peek? : Read (Option Char) := return (← get).rest.head?

def atEnd : Read Bool := return (← get).rest.isEmpty

def advance : Read Unit := modify Cursor.advance

/-- Passes over blanks and comments where they are not meant. -/
def skip : Read Unit := modify Cursor.skip

def advanceSkipping : Read Unit := modify fun cursor => cursor.advance.skip

def characterHere : Read Span := return ⟨(← get).place, (← get).advance.place⟩

def readRun (kind : Char → Bool) : Read (List Char) :=
  modifyGet fun cursor => cursor.run Cursor.advance kind cursor.rest.length

def readRunSkipping (kind : Char → Bool) : Read (List Char) :=
  modifyGet fun cursor => cursor.run (fun cursor => cursor.advance.skip) kind cursor.rest.length

/-- Passes over a word if it comes next. -/
def accept (word : List Char) : Read Bool :=
  modifyGet fun cursor =>
    if word.isPrefixOf cursor.rest then (true, word.length.repeat Cursor.advance cursor)
    else (false, cursor)

end GroupKey.Regex
