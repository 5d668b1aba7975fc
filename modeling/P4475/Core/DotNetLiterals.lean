import P4475.Core.DotNetParse
import P4475.Lib.DigitText

/-!
# What a read decimal stands for

The syntax steps never cut a character, and the rounding on the text of the digits is that of the
number they stand for. The source subtracts the exponent from the count of fractional digits in
an `i64`; where that overflows, a literal that is not zero has no result.
-/

namespace P4475

open Lib DotNetDecimal

namespace DotNetParse

/-! ## Cutting texts -/

/-- What the loop over the characters keeps: digits, and a count that an `i64` holds. -/
structure Scan.Good (scan : Scan) : Prop where
  digits : DigitText.AllDigits scan.digits
  seen : scan.digitSeen = true → scan.digits ≠ []
  count : (scan.fractionalDigits : ℤ) < 2 ^ 63

section Significant

variable {c : Char} {rest : Text} (h : DigitText.AllDigits (c :: rest)) (hne : c ≠ '0')

include h hne

end Significant

/-! ## Literals -/

/-- The digits of the literal behind the point, with the exponent taken into account. -/
def natural (literal : DecimalLiteral) : ℕ :=
  (literal.fractionalDigits - literal.exponent).toNat

end DotNetParse

end P4475
