/-!
# Numerals

Whole numbers in decimal digits.
-/

namespace Geocoding.Text

/-- The digits of a number. -/
def numeral (n : Nat) : String := .ofList (Nat.toDigits 10 n)

/-- The digits of a number, after a minus sign if it is negative. -/
def signedNumeral : Int → String
  | .ofNat n => numeral n
  | .negSucc n => "-" ++ numeral (n + 1)

end Geocoding.Text
