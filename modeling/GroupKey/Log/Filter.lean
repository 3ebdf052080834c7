import GroupKey.Log.Record
import GroupKey.Regex.Compiled
import GroupKey.Text.Blank

/-!
Which log records are shown.

A filter is a list of directives and perhaps a pattern. Each directive names a target, or none to
mean every target, and the least important level that is still shown for it. The directive with the
longest target that begins the target of a record decides about the record, and of equally long ones
the last; what is then shown must match the pattern too. A specification is a list of directives
between commas, and a pattern after a slash. What cannot be read is left out, and what was wrong
with it is kept for a warning.
-/

namespace GroupKey.Log

open Text

structure Directive where
  /-- What the targets concerned begin with, if not every target is concerned. -/
  target : Option String
  /-- The least important level to show, or none at all. -/
  threshold : Option Level
  deriving DecidableEq, Repr

/-- A threshold by its name, in letters of either case. -/
def threshold? (word : List Char) : Option (Option Level) :=
  match String.ofList (word.map Char.toLower) with
  | "off" => some none
  | "error" => some (some .error)
  | "warn" => some (some .warn)
  | "info" => some (some .info)
  | "debug" => some (some .debug)
  | "trace" => some (some .trace)
  | _ => none

namespace Directive

/-- Reads one directive, or gives back the part of it that cannot be read. -/
def read (item : List Char) : Except (List Char) Directive :=
  match item.splitOn '=' with
  | [word] =>
    match threshold? word with
    | some threshold => .ok ⟨none, threshold⟩
    | none => .ok ⟨some (String.ofList word), some .trace⟩
  | [target, word] =>
    match trim word with
    | [] => .ok ⟨some (String.ofList target), some .trace⟩
    | word =>
      match threshold? word with
      | some threshold => .ok ⟨some (String.ofList target), threshold⟩
      | none => .error word
  | _ => .error item

def covers (directive : Directive) (target : String) : Bool :=
  directive.target.all (fun start => start.toList.isPrefixOf target.toList)

/-- How closely the directive names a target: by so many bytes. -/
def closeness (directive : Directive) : Nat := (directive.target.map String.utf8ByteSize).getD 0

def shows (directive : Directive) (level : Level) : Bool :=
  directive.threshold.any (fun threshold => level.rank ≤ threshold.rank)

end Directive

namespace Directives

/-- The directives and one more, which takes the place of one for the same target. -/
def put (directives : List Directive) (directive : Directive) : List Directive :=
  if directives.any (·.target = directive.target) then
    directives.map fun old => if old.target = directive.target then directive else old
  else directives ++ [directive]

/-- Without directives errors are shown and nothing else. -/
def errorsOnly : List Directive := [⟨none, some .error⟩]

/-- Of a directive and the best one before it, the one that decides. -/
def closer (target : String) (best : Option Directive) (directive : Directive) :
    Option Directive :=
  if directive.covers target ∧ best.all (·.closeness ≤ directive.closeness) then some directive
  else best

def deciding (directives : List Directive) (target : String) : Option Directive :=
  directives.foldl (closer target) none

/-- The directives between commas as they are written, without blanks around them and without empty
ones. -/
def items (text : List Char) : List (List Char) :=
  ((text.splitOn ',').map trim).filter (· ≠ [])

def ofText (text : List Char) : List Directive :=
  match (items text).filterMap (fun item => (Directive.read item).toOption) with
  | [] => errorsOnly
  | directives => directives.foldl put []

def unreadable (text : List Char) : List (List Char) :=
  (items text).filterMap fun item =>
    match Directive.read item with
    | .ok _ => none
    | .error part => some part

end Directives

structure Filter where
  /-- The directives, in the order in which their targets were first named. -/
  directives : List Directive
  pattern : Option Regex.Expr := none

def Filter.shows (filter : Filter) (record : Record) : Bool :=
  (Directives.deciding filter.directives record.target).any (·.shows record.level) &&
    filter.pattern.all (·.matchesIn record.text)

inductive Complaint where
  | unreadable (part : String)
  /-- More than one slash. -/
  | slashes (specification : String)
  | pattern (text : String) (refusal : Regex.Refusal)
  deriving DecidableEq, Repr

namespace Complaint

def text : Complaint → String
  | .unreadable part => "invalid logging spec '" ++ part ++ "'"
  | .slashes specification => "invalid logging spec '" ++ specification ++ "' (too many '/'s)"
  | .pattern text refusal => "invalid regex filter - " ++ refusal.text text

def warning (complaint : Complaint) : String :=
  "warning: " ++ complaint.text ++ ", ignoring it"

end Complaint

inductive Specification where
  | parts (directives : List Char) (pattern : Option String)
  /-- A text with more slashes than one. -/
  | illegible (text : String)

namespace Specification

/-- The specification that a text is: what stands before and after the slash. -/
def ofText (text : String) : Specification :=
  match text.toList.splitOn '/' with
  | [] => .parts [] none
  | [directives] => .parts directives none
  | [directives, pattern] => .parts directives (some (String.ofList pattern))
  | _ => .illegible text

def filter : Specification → Filter
  | .parts directives pattern =>
    { directives := Directives.ofText directives
      pattern := pattern.bind fun text => (Regex.compile text).toOption }
  | .illegible _ => { directives := Directives.errorsOnly }

def complaintOn (text : String) : Option Complaint :=
  match Regex.compile text with
  | .ok _ => none
  | .error refusal => some (.pattern text refusal)

def complaints : Specification → List Complaint
  | .parts directives pattern =>
    (Directives.unreadable directives).map (.unreadable ∘ String.ofList) ++
      (pattern.bind complaintOn).toList
  | .illegible text => [.slashes text]

end Specification

def specificationVariable : String := "RUST_LOG"

/-- The specification in force when the variable holds none that is text. -/
def defaultSpecification : String := "warn"

def Specification.ofValue (value : Option Bytes) : Specification :=
  .ofText ((value.bind Utf8.decode?).getD defaultSpecification)

end GroupKey.Log
