import P4475.Core.DotNetDecimal
import P4475.Lib.Outcome
import P4475.Nickname

/-!
# Reading decimals

`parse_invariant` of `p4475-core/src/dotnet_decimal.rs`. The syntax steps reduce a text to a sign,
the digits, how many of them stand behind the point, and an exponent; the rounding then works on
the text of the digits. Texts are cut at byte offsets, and a cut inside a character panics.
-/

namespace P4475

open Lib

/-! ## Texts -/

/-- `str::len`. -/
def byteLength (text : Text) : ℕ := (text.map Char.utf8Size).sum

/-- What is before a byte offset and what is behind it, where no character is cut. -/
def splitAtByte : (offset : ℕ) → Text → Option (Text × Text)
  | 0, text => some ([], text)
  | _ + 1, [] => none
  | offset + 1, c :: rest =>
    if offset + 1 < c.utf8Size then none
    else (splitAtByte (offset + 1 - c.utf8Size) rest).map fun parts => (c :: parts.1, parts.2)

/-- `&text[start..stop]`. -/
def slice (text : Text) (start stop : ℕ) : Except Panic Text :=
  if stop < start then .error .slice
  else
    match splitAtByte start text with
    | none => .error .slice
    | some parts =>
      match splitAtByte (stop - start) parts.2 with
      | none => .error .slice
      | some inner => .ok inner.1

/-- The values of an `i64`. -/
def isI64 (value : ℤ) : Bool := -2 ^ 63 ≤ value ∧ value < 2 ^ 63

/-- What the syntax steps find: the sign, the digits without the point, how many of them are
behind it, and the exponent. -/
structure DecimalLiteral where
  negative : Bool
  digits : Text
  fractionalDigits : ℕ
  exponent : ℤ
  deriving DecidableEq

namespace DotNetParse

/-- What the loop over the characters holds. -/
structure Scan where
  digits : Text
  fractionalDigits : ℕ
  decimalSeen : Bool
  digitSeen : Bool

/-- One character. -/
def Scan.step (scan : Scan) (c : Char) : Option Scan :=
  if c.isDigit then
    if scan.decimalSeen then
      if isI64 (scan.fractionalDigits + 1) then
        some ⟨scan.digits ++ [c], scan.fractionalDigits + 1, true, true⟩
      else none
    else some ⟨scan.digits ++ [c], scan.fractionalDigits, false, true⟩
  else if c = '.' ∧ scan.decimalSeen = false then some { scan with decimalSeen := true }
  else if c = ',' ∧ scan.decimalSeen = false ∧ scan.digitSeen = true then some scan
  else none

end DotNetParse

end P4475
