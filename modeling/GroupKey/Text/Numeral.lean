/-!
Numbers written out.
-/

namespace GroupKey

/-- A number in base ten, without leading zeros. -/
def decimal (n : Nat) : String := String.ofList (Nat.toDigits 10 n)

end GroupKey
