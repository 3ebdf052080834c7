import GroupKey.Regex.Meaning
import GroupKey.Regex.Reader
import GroupKey.Regex.Size

/-!
Patterns that are ready to be matched, and why a pattern cannot be.
-/

namespace GroupKey.Regex

inductive Refusal where
  | wrong (fault : LocatedFault)
  /-- It asks for the edges of words beyond ASCII, which are not known. -/
  | unicodeWords
  | tooLarge
  deriving DecidableEq, Repr

def sizeLimit : Nat := 10 * 1024 * 1024

def Refusal.text (pattern : String) : Refusal → String
  | .wrong fault => fault.report pattern
  | .unicodeWords => "error building NFA"
  | .tooLarge => "Compiled regex exceeds size limit of " ++ decimal sizeLimit ++ " bytes."

/-- What a pattern means, unless it is refused. The automaton that reads forward is made first. -/
def compile (pattern : String) : Except Refusal Expr := do
  let read ← (Pattern.read pattern).mapError .wrong
  let (expr, _) ← (read.meaning {}).mapError .wrong
  if sizeLimit < expr.size .forward then throw .tooLarge
  if expr.asksForUnicodeWords then throw .unicodeWords
  if sizeLimit < expr.size .backward then throw .tooLarge
  return expr

end GroupKey.Regex
