import GroupKey.Files.Path
import Std.Data.ExtTreeMap

/-!
The directory tree.

A place in the tree is given by the names on the way to it, the last one first, so that the
directory around a place is its tail. The root is the empty list; it is always there and always a
directory. Two trees are equal when they hold the same things at the same places.
-/

namespace GroupKey

/-- A place in the directory tree: the names that lead to it, innermost first. -/
abbrev Location := List Bytes

inductive Device where
  /-- Takes all data and keeps none. -/
  | null
  /-- Never has room for any data. -/
  | full
  deriving DecidableEq, Repr

inductive Node where
  /-- A directory; what is in it is found at the places below. -/
  | directory
  | file (content : Bytes)
  | link (target : Path)
  | device (kind : Device)
  deriving DecidableEq, Repr

/-- A directory tree, and the working directory from which relative paths start. -/
structure FileSystem where
  /-- What is at each place but the root. -/
  entries : Std.ExtTreeMap Location Node
  cwd : Location

namespace FileSystem

def node? (fs : FileSystem) : Location → Option Node
  | [] => some .directory
  | place => fs.entries[place]?

def put (fs : FileSystem) (place : Location) (node : Node) : FileSystem :=
  { fs with entries := fs.entries.insert place node }

@[simp]
theorem node?_root (fs : FileSystem) : fs.node? [] = some .directory := rfl

theorem node?_put_self (fs : FileSystem) {place : Location} (node : Node) (h : place ≠ []) :
    (fs.put place node).node? place = some node := by
  cases place with
  | nil => exact absurd rfl h
  | cons name dir => simp [node?, put]

theorem node?_put_of_ne (fs : FileSystem) {place other : Location} (node : Node)
    (h : place ≠ other) : (fs.put place node).node? other = fs.node? other := by
  cases other with
  | nil => rfl
  | cons name dir => simp [node?, put, Std.ExtTreeMap.getElem?_insert, h]

/-- The tree without a place and all that is below it. -/
def remove (fs : FileSystem) (place : Location) : FileSystem :=
  { fs with entries := fs.entries.filter fun other _ => !place.isSuffixOf other }

/-- Whatever exists is in a directory, and so is whatever is made in the working directory. -/
structure WellFormed (fs : FileSystem) : Prop where
  around : ∀ name dir node, fs.node? (name :: dir) = some node → fs.node? dir = some .directory
  cwd : fs.node? fs.cwd = some .directory

/-- The path from a directory down to a place below it, outermost name first. -/
def below? (dir place : Location) : Option (List Bytes) :=
  if dir.isSuffixOf place ∧ dir ≠ place then
    some (place.take (place.length - dir.length)).reverse
  else none

/-- All that is below the working directory, by relative path, in the order of the bytes of the
paths. -/
def listing (fs : FileSystem) : List (Path × Node) :=
  let found := fs.entries.toList.filterMap fun (place, node) =>
    (below? fs.cwd place).map fun names => (⟨[Path.slash].intercalate names⟩, node)
  found.mergeSort fun a b => (compare a.1.bytes b.1.bytes).isLE

/-- The tree with a directory at a place and at all places around it. -/
def putDirectories (fs : FileSystem) : Location → FileSystem
  | [] => fs
  | name :: dir => (fs.putDirectories dir).put (name :: dir) .directory

def deviceDirectory : Location := [Utf8.encode "dev"]

/-- A tree with an empty working directory, and the devices where they are expected. -/
def fresh (cwd : Location) : FileSystem :=
  (((FileSystem.mk ∅ cwd).putDirectories deviceDirectory).putDirectories cwd)
    |>.put (Utf8.encode "null" :: deviceDirectory) (.device .null)
    |>.put (Utf8.encode "full" :: deviceDirectory) (.device .full)

end FileSystem

end GroupKey
