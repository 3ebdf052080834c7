import GroupKey.Files.Resolve

/-!
Writing files.

A file is opened for writing by its path, made if it is not there and emptied if it is, and then
takes the new content. A regular file takes the content as a whole: a disk that is full half way,
and leaves a part of the content behind, is not among the trees here. Only a device can refuse what
is written to it, and no device keeps any of it. That is why nothing in the tree changes unless a
write succeeds.
-/

namespace GroupKey.FileSystem

def destination (fs : FileSystem) (p : Path) : Except IoError Location :=
  match fs.resolve p with
  | .error error => .error error
  | .ok (.directory _) => .error (.system .isDirectory)
  | .ok (.occupied place) => .ok place
  | .ok (.vacant place) => .ok place

/-- Gives all of the content to what is open at a place. A device without room still takes content
that is empty. -/
def fill (fs : FileSystem) (place : Location) (content : Bytes) :
    Except IoError Unit × FileSystem :=
  match fs.node? place with
  | some (.device .null) => (.ok (), fs)
  | some (.device .full) => (if content = [] then .ok () else .error (.system .noSpace), fs)
  | _ => (.ok (), fs.put place (.file content))

def write (fs : FileSystem) (p : Path) (content : Bytes) : Except IoError Unit × FileSystem :=
  match fs.destination p with
  | .error error => (.error error, fs)
  | .ok place => fs.fill place content

end GroupKey.FileSystem
