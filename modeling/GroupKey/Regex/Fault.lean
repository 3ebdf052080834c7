import GroupKey.Regex.Place
import GroupKey.Text.Numeral

/-!
What can be wrong with a pattern, and how it is told: under the pattern a row of marks shows the
stretch that is meant.
-/

namespace GroupKey.Regex

inductive Fault where
  | classEscape
  | classRangeOrder
  | classRangeEnd
  | classUnclosed
  | decimalTooLarge
  | hexEmpty
  | hexInvalid
  | hexDigit
  | escapeUnfinished
  | escapeUnknown
  | flagDanglingNegation
  | flagDuplicate (first : Span)
  | flagRepeatedNegation (first : Span)
  | flagUnfinished
  | flagUnknown
  | groupNameDuplicate (first : Span)
  | groupNameEmpty
  | groupNameInvalid
  | groupNameUnfinished
  | groupUnclosed
  | groupUnopened
  | nestedTooDeep
  | countOrder
  | countEmpty
  | countUnclosed
  | repetitionMissing
  | boundaryUnclosed
  | boundaryUnknown
  | boundaryUnfinished
  | propertyInvalid
  | backreference
  | lookAround
  | unicodeForbidden
  | invalidUtf8
  | propertyUnknown
  | propertyValueUnknown
  /-- A class by one letter, whose members beyond ASCII are not known. -/
  | letterClassUnknown
  /-- Letters of either case, whose partners beyond ASCII are not known. -/
  | caseUnknown
  deriving DecidableEq, Repr

/-- How many levels of groups, classes and repetitions are read. -/
def deepest : Nat := 250

namespace Fault

def text : Fault → String
  | .classEscape => "invalid escape sequence found in character class"
  | .classRangeOrder => "invalid character class range, the start must be <= the end"
  | .classRangeEnd => "invalid range boundary, must be a literal"
  | .classUnclosed => "unclosed character class"
  | .decimalTooLarge => "decimal literal invalid"
  | .hexEmpty => "hexadecimal literal empty"
  | .hexInvalid => "hexadecimal literal is not a Unicode scalar value"
  | .hexDigit => "invalid hexadecimal digit"
  | .escapeUnfinished => "incomplete escape sequence, reached end of pattern prematurely"
  | .escapeUnknown => "unrecognized escape sequence"
  | .flagDanglingNegation => "dangling flag negation operator"
  | .flagDuplicate _ => "duplicate flag"
  | .flagRepeatedNegation _ => "flag negation operator repeated"
  | .flagUnfinished => "expected flag but got end of regex"
  | .flagUnknown => "unrecognized flag"
  | .groupNameDuplicate _ => "duplicate capture group name"
  | .groupNameEmpty => "empty capture group name"
  | .groupNameInvalid => "invalid capture group character"
  | .groupNameUnfinished => "unclosed capture group name"
  | .groupUnclosed => "unclosed group"
  | .groupUnopened => "unopened group"
  | .nestedTooDeep =>
    "exceed the maximum number of nested parentheses/brackets (" ++ decimal deepest ++ ")"
  | .countOrder => "invalid repetition count range, the start must be <= the end"
  | .countEmpty => "repetition quantifier expects a valid decimal"
  | .countUnclosed => "unclosed counted repetition"
  | .repetitionMissing => "repetition operator missing expression"
  | .boundaryUnclosed =>
    "special word boundary assertion is either unclosed or contains an invalid character"
  | .boundaryUnknown =>
    "unrecognized special word boundary assertion, valid choices are: " ++
      "start, end, start-half or end-half"
  | .boundaryUnfinished =>
    "found either the beginning of a special word boundary or a bounded repetition on a \\b " ++
      "with an opening brace, but no closing brace"
  | .propertyInvalid => "invalid Unicode character class"
  | .backreference => "backreferences are not supported"
  | .lookAround => "look-around, including look-ahead and look-behind, is not supported"
  | .unicodeForbidden => "Unicode not allowed here"
  | .invalidUtf8 => "pattern can match invalid UTF-8"
  | .propertyUnknown => "Unicode property not found"
  | .propertyValueUnknown => "Unicode property value not found"
  | .letterClassUnknown =>
    "Unicode-aware Perl class not found (make sure the unicode-perl feature is enabled)"
  | .caseUnknown =>
    "Unicode-aware case insensitivity matching is not available " ++
      "(make sure the unicode-case feature is enabled)"

/-- The other stretch of the pattern that a fault is about, if there is one. -/
def first? : Fault → Option Span
  | .flagDuplicate first | .flagRepeatedNegation first | .groupNameDuplicate first => some first
  | _ => none

end Fault

structure LocatedFault where
  fault : Fault
  span : Span
  deriving DecidableEq, Repr

namespace LocatedFault

def spans (located : LocatedFault) : List Span :=
  match located.fault.first? with
  | none => [located.span]
  | some first => if first.before located.span then [first, located.span] else [located.span, first]

/-- A row of marks: one below each character of the stretches, and one at the place of an empty
stretch. The row has reached a column, counted from zero. -/
def marks : Nat → List Span → String
  | _, [] => ""
  | column, span :: rest =>
    let gap := span.start.column - 1 - column
    let width := max 1 (span.stop.column - span.start.column)
    String.ofList (List.replicate gap ' ' ++ List.replicate width '^') ++
      marks (column + gap + width) rest

/-- A line of the pattern after a margin, and below it its marks, if it has any. -/
def marked (spans : List Span) (margin : Nat → String) (number : Nat) (line : String) : String :=
  let row :=
    match spans.filter fun span => span.oneLine && span.start.line = number with
    | [] => ""
    | found => String.ofList (List.replicate (margin number).length ' ') ++ marks 0 found ++ "\n"
  margin number ++ line ++ "\n" ++ row

/-- The lines of a pattern, which end before a line feed or a carriage return and a line feed. The
last one counts only if there is something in it. -/
def linesOf : List (List Char) → List String
  | [] => []
  | [last] => if last = [] then [] else [String.ofList last]
  | line :: rest =>
    String.ofList (if line.getLast? = some '\r' then line.dropLast else line) :: linesOf rest

def inWords (span : Span) : String :=
  "on line " ++ decimal span.start.line ++ " (column " ++ decimal span.start.column ++
    ") through line " ++ decimal span.stop.line ++ " (column " ++ decimal (span.stop.column - 1) ++
    ")\n"

def notated (located : LocatedFault) (margin : Nat → String) (pieces : List (List Char)) : String :=
  String.join ((linesOf pieces).mapIdx fun index line =>
    marked located.spans margin (index + 1) line)

/-- What is told about a fault of a pattern. The lines of a pattern that has several are numbered
and stand between two rules. -/
def report (located : LocatedFault) (pattern : String) : String :=
  let pieces := pattern.toList.splitOn '\n'
  let body :=
    if pieces.length ≤ 1 then located.notated (fun _ => "    ") pieces
    else
      let width := (decimal pieces.length).length
      let margin number := String.ofList ((decimal number).toList.leftpad width ' ') ++ ": "
      let rule := String.ofList (List.replicate 79 '~') ++ "\n"
      let notes := (located.spans.filter fun span => !span.oneLine).map inWords
      rule ++ located.notated margin pieces ++ rule ++ String.join notes
  "regex parse error:\n" ++ body ++ "error: " ++ located.fault.text

end LocatedFault

end GroupKey.Regex
