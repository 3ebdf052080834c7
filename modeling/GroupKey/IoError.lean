import GroupKey.Text.Numeral

/-!
What can go wrong with a file or a stream.

An error is one that the operating system reports by number, or one that a writer raises itself,
with words of its own or with those of its kind.
-/

namespace GroupKey

inductive IoError.Kind where
  | notFound
  | permissionDenied
  | notADirectory
  | isADirectory
  | storageFull
  | brokenPipe
  | invalidFilename
  | filesystemLoop
  | invalidInput
  | writeZero
  | interrupted
  | other
  deriving DecidableEq, Repr

/-- The numbered errors of the operating system that opening and writing can meet. -/
inductive Errno where
  | noEntry
  | accessDenied
  | notDirectory
  | isDirectory
  | noSpace
  | brokenPipe
  | nameTooLong
  | linkLoop
  deriving DecidableEq, Repr

inductive IoError where
  | system (errno : Errno)
  /-- A kind of trouble with nothing more to say. -/
  | bare (kind : IoError.Kind)
  | described (kind : IoError.Kind) (words : String)
  deriving DecidableEq, Repr

namespace Errno

def number : Errno → Nat
  | .noEntry => 2
  | .accessDenied => 13
  | .notDirectory => 20
  | .isDirectory => 21
  | .noSpace => 28
  | .brokenPipe => 32
  | .nameTooLong => 36
  | .linkLoop => 40

def all : List Errno :=
  [.noEntry, .accessDenied, .notDirectory, .isDirectory, .noSpace, .brokenPipe, .nameTooLong,
   .linkLoop]

def ofNumber? (n : Nat) : Option Errno := all.find? (·.number = n)

def words : Errno → String
  | .noEntry => "No such file or directory"
  | .accessDenied => "Permission denied"
  | .notDirectory => "Not a directory"
  | .isDirectory => "Is a directory"
  | .noSpace => "No space left on device"
  | .brokenPipe => "Broken pipe"
  | .nameTooLong => "File name too long"
  | .linkLoop => "Too many levels of symbolic links"

def kind : Errno → IoError.Kind
  | .noEntry => .notFound
  | .accessDenied => .permissionDenied
  | .notDirectory => .notADirectory
  | .isDirectory => .isADirectory
  | .noSpace => .storageFull
  | .brokenPipe => .brokenPipe
  | .nameTooLong => .invalidFilename
  | .linkLoop => .filesystemLoop

end Errno

namespace IoError

/-- The words for a kind of trouble about which no more is known. -/
def Kind.words : Kind → String
  | .notFound => "entity not found"
  | .permissionDenied => "permission denied"
  | .notADirectory => "not a directory"
  | .isADirectory => "is a directory"
  | .storageFull => "no storage space"
  | .brokenPipe => "broken pipe"
  | .invalidFilename => "invalid filename"
  | .filesystemLoop => "filesystem loop or indirection limit (e.g. symlink loop)"
  | .invalidInput => "invalid input parameter"
  | .writeZero => "write zero"
  | .interrupted => "operation interrupted"
  | .other => "other error"

def kind : IoError → Kind
  | .system errno => errno.kind
  | .bare kind => kind
  | .described kind _ => kind

def message : IoError → String
  | .system errno => errno.words ++ " (os error " ++ decimal errno.number ++ ")"
  | .bare kind => kind.words
  | .described _ words => words

/-- No path may hold a zero byte, which ends a path for the operating system. -/
def zeroByteInPath : IoError :=
  .described .invalidInput "file name contained an unexpected NUL byte"

/-- A stream took nothing of data that was left to write. -/
def tookNothing : IoError := .described .writeZero "failed to write whole buffer"

end IoError

end GroupKey
