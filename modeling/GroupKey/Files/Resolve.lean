import GroupKey.Files.Tree
import GroupKey.IoError

/-!
From paths to places.

A path is walked part by part from the root or the working directory. A symbolic link on the way
puts the parts of its target in its own place, so many times and no more; the part a path ends in
may name something that is not there yet. Where a walk ends is its landing.
-/

namespace GroupKey

inductive Walk.Step where
  | stay
  | up
  | down (name : Bytes)
  deriving DecidableEq, Repr

structure Walk where
  steps : List Walk.Step
  /-- Whether a slash follows the last of them. -/
  slash : Bool
  deriving DecidableEq, Repr

inductive Landing where
  | directory (place : Location)
  /-- On something else that is there. -/
  | occupied (place : Location)
  /-- On a name that its directory does not hold. -/
  | vacant (place : Location)
  deriving DecidableEq, Repr

/-- The step that a part of a path asks for; an empty part asks for none. -/
def Walk.Step.ofPart (part : Bytes) : Option Walk.Step :=
  if part = [] then none
  else if part = Path.dot then some .stay
  else if part = Path.dotDot then some .up
  else some (.down part)

def Path.walk (p : Path) : Walk where
  steps := p.parts.filterMap Walk.Step.ofPart
  slash := p.bytes.getLast? = some slash

namespace FileSystem

/-- The longest path that the operating system takes, in bytes. -/
def longestPath : Nat := 4095

def longestName : Nat := 255

def mostLinks : Nat := 40

/-- How far a walk gets without following a link. -/
inductive Stage where
  | arrived (landing : Landing)
  /-- To a link in a directory, with steps left behind it. -/
  | link (dir : Location) (target : Path) (rest : List Walk.Step)
  deriving DecidableEq, Repr

/-- Walks on from a directory to the end, or to the first link. A walk that ends in a name and a
slash asks for a directory to be made, which is refused before the name is looked up. -/
def advance (fs : FileSystem) (slash : Bool) : Location → List Walk.Step → Except Errno Stage
  | dir, [] => .ok (.arrived (.directory dir))
  | dir, .stay :: rest => advance fs slash dir rest
  | dir, .up :: rest => advance fs slash dir.tail rest
  | dir, .down name :: rest =>
    if rest = [] ∧ slash then .error .isDirectory
    else if longestName < name.length then .error .nameTooLong
    else
      match fs.node? (name :: dir) with
      | none => if rest = [] then .ok (.arrived (.vacant (name :: dir))) else .error .noEntry
      | some .directory => advance fs slash (name :: dir) rest
      | some (.link target) => .ok (.link dir target rest)
      | some _ =>
        if rest = [] then .ok (.arrived (.occupied (name :: dir))) else .error .notDirectory

/-- Where a path starts when it is met in a directory. -/
def start (dir : Location) (p : Path) : Location := if p.isAbsolute then [] else dir

/-- The walk that is left when a link is met: its target takes the place of the link. -/
def detour (slash : Bool) (target : Path) (rest : List Walk.Step) : Walk where
  steps := target.walk.steps ++ rest
  slash := if rest = [] then target.walk.slash else slash

/-- Walks from a directory to the end, following so many links and no more. -/
def follow (fs : FileSystem) : Nat → Location → Walk → Except Errno Landing
  | links, dir, walk =>
    match fs.advance walk.slash dir walk.steps, links with
    | .error errno, _ => .error errno
    | .ok (.arrived landing), _ => .ok landing
    | .ok (.link _ _ _), 0 => .error .linkLoop
    | .ok (.link dir target rest), more + 1 =>
      fs.follow more (start dir target) (detour walk.slash target rest)

/-- Where a path leads, every link followed. -/
def resolve (fs : FileSystem) (p : Path) : Except IoError Landing :=
  if 0 ∈ p.bytes then .error .zeroByteInPath
  else if longestPath < p.bytes.length then .error (.system .nameTooLong)
  else if p.bytes = [] then .error (.system .noEntry)
  else (fs.follow mostLinks (start fs.cwd p) p.walk).mapError .system

/-- The place that a path names, in a directory that is there. A link at the place itself is not
followed. -/
def place? (fs : FileSystem) (p : Path) : Option Location :=
  match p.walk.steps.getLast? with
  | some (.down name) =>
    match fs.follow mostLinks (start fs.cwd p) ⟨p.walk.steps.dropLast, false⟩ with
    | .ok (.directory dir) => some (name :: dir)
    | _ => none
  | _ => none

end FileSystem

end GroupKey
