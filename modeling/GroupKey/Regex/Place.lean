/-!
Places in a pattern: lines and columns, both counted from one, and stretches between two places.
-/

namespace GroupKey.Regex

/-- A place in a pattern, before the character that stands there. -/
structure Place where
  line : Nat := 1
  column : Nat := 1
  deriving DecidableEq, Repr, Inhabited

def Place.after (place : Place) (c : Char) : Place :=
  if c = '\n' then ⟨place.line + 1, 1⟩ else ⟨place.line, place.column + 1⟩

def Place.before (a b : Place) : Bool :=
  a.line < b.line || (a.line = b.line && a.column < b.column)

structure Span where
  start : Place
  /-- Where it stops: after its last character. -/
  stop : Place
  deriving DecidableEq, Repr, Inhabited

namespace Span

def empty (place : Place) : Span := ⟨place, place⟩

def oneLine (span : Span) : Bool := span.start.line = span.stop.line

/-- Whether a stretch comes before another: by its start, or by its stop if they start together. -/
def before (a b : Span) : Bool :=
  a.start.before b.start || (a.start = b.start && a.stop.before b.stop)

end Span

end GroupKey.Regex
