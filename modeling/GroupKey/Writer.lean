import GroupKey.Bytes
import GroupKey.IoError

/-!
Streams that take data a little at a time.

A writer may take less than it is offered, ask to be called again, run out of room, or fail when it
is flushed. `writeAll` keeps offering what is left until nothing is, or the writer gives up.
-/

namespace GroupKey

def IoError.noRoom : IoError := .described .storageFull "no room"

/-- What a writer does when it is offered data and can take none. -/
inductive WhenFull where
  | refuse (error : IoError)
  /-- It reports that it took no bytes. -/
  | takeNothing
  deriving DecidableEq, Repr

/-- A writer: how it will behave from now on, and what it has taken so far. -/
structure Writer where
  /-- How many bytes it will still take, if there is an end to that. -/
  room : Option Nat := none
  /-- The most bytes that it takes in one call, if there is such a number. -/
  chunk : Option Nat := none
  whenFull : WhenFull := .refuse .noRoom
  /-- How many of the next calls it asks to have repeated. -/
  interrupts : Nat := 0
  /-- The error that the next flush ends with, if it fails. -/
  flushError : Option IoError := none
  accepted : Bytes := []
  flushes : Nat := 0
  deriving DecidableEq, Repr

namespace Writer

def fullDevice : Writer where
  room := some 0
  whenFull := .refuse (.system .noSpace)

inductive Reply where
  | took (count : Nat)
  /-- Nothing was taken, and the same offer may be made again. -/
  | interrupted
  | failed (error : IoError)
  deriving DecidableEq, Repr

def Reply.ofFull : WhenFull → Reply
  | .refuse error => .failed error
  | .takeNothing => .took 0

def atMost : Option Nat → Nat → Nat
  | none, n => n
  | some limit, n => min limit n

/-- How many of so many bytes the writer can take in one call. -/
def share (w : Writer) (offered : Nat) : Nat := atMost w.room (atMost w.chunk offered)

def take (w : Writer) (data : Bytes) : Writer :=
  { w with room := w.room.map (· - data.length), accepted := w.accepted ++ data }

def write (w : Writer) (data : Bytes) : Reply × Writer :=
  match w.interrupts with
  | more + 1 => (.interrupted, { w with interrupts := more })
  | 0 =>
    if w.share data.length = 0 ∧ data ≠ [] then (.ofFull w.whenFull, w)
    else (.took (w.share data.length), w.take (data.take (w.share data.length)))

theorem interrupts_lt_of_interrupted {w w' : Writer} {data : Bytes}
    (h : w.write data = (.interrupted, w')) : w'.interrupts < w.interrupts := by
  unfold write at h
  split at h
  · next more hw =>
    cases h
    simp [hw]
  · split at h
    · cases hf : w.whenFull <;> simp [hf, Reply.ofFull] at h
    · cases h

theorem interrupts_of_took {w w' : Writer} {data : Bytes} {count : Nat}
    (h : w.write data = (.took count, w')) : w'.interrupts = w.interrupts := by
  unfold write at h
  split at h
  · cases h
  · split at h
    · rw [← (Prod.mk.inj h).2]
    · rw [← (Prod.mk.inj h).2, take]

def writeAll (w : Writer) : Bytes → Except IoError Unit × Writer
  | [] => (.ok (), w)
  | first :: rest =>
    match hw : w.write (first :: rest) with
    | (.interrupted, w') =>
      have := interrupts_lt_of_interrupted hw
      writeAll w' (first :: rest)
    | (.failed error, w') => (.error error, w')
    | (.took 0, w') => (.error .tookNothing, w')
    | (.took (more + 1), w') =>
      have := interrupts_of_took hw
      writeAll w' (rest.drop more)
termination_by data => w.interrupts + data.length

/-- Asks the writer to pass on what it holds. The one error it has for that is used up. -/
def flush (w : Writer) : Except IoError Unit × Writer :=
  (match w.flushError with
    | none => .ok ()
    | some error => .error error,
   { w with flushError := none, flushes := w.flushes + 1 })

end Writer

end GroupKey
