import GroupKey.Text.Quoted

/-!
Paths: the names that files are asked for by.

A path is kept as the bytes it was given in. Two paths count as the same when they have the same
components, which leaves repeated and final slashes and most single dots out of account. Where a
path has to be read as text, `shown` replaces what is no text and `quoted` spells it out.
-/

namespace GroupKey

/-- A path, as it was given. -/
structure Path where
  bytes : Bytes
  deriving DecidableEq, Repr

namespace Path

def ofString (s : String) : Path := ⟨Utf8.encode s⟩

def slash : UInt8 := 0x2F

def dot : Bytes := [0x2E]

def dotDot : Bytes := [0x2E, 0x2E]

/-- The stretches between slashes, empty ones included. -/
def parts (p : Path) : List Bytes := p.bytes.splitOn slash

def isAbsolute (p : Path) : Bool := p.bytes.head? = some slash

inductive Component where
  /-- The root, at the front of an absolute path. -/
  | root
  /-- A single dot at the front of a relative path. -/
  | current
  | parent
  | name (bytes : Bytes)
  deriving DecidableEq, Repr

/-- The component that a part behind the first slash is: an empty part and a single dot are none. -/
def Component.ofPart (part : Bytes) : Option Component :=
  if part = [] ∨ part = dot then none
  else if part = dotDot then some .parent
  else some (.name part)

def components (p : Path) : List Component :=
  let rest := p.parts.filterMap Component.ofPart
  if p.isAbsolute then .root :: rest
  else if p.parts.head? = some dot then .current :: rest
  else rest

/-- Paths count as equal when their components are equal, though their bytes may differ. -/
instance : BEq Path where
  beq p q := p.components == q.components

/-- The path as text, for messages: bytes that spell no text are replaced. -/
def shown (p : Path) : String := Utf8.lossy p.bytes

/-- The path in its quoted form, which tells every path from every other. -/
def quoted (p : Path) : List Char := Quoted.bytes p.bytes

end Path

end GroupKey
