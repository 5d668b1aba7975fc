import Mathlib.Algebra.Ring.Nat

/-!
# Nicknames

`p4475-core/src/nickname.rs`: validation of a requested nickname and the
case-insensitive key under which an identity is stored. A Rust `String` is the
list of its scalar values.

NFC and full case folding come from two Unicode crates that are not part of the
repository, so they are the parameter `Unicode`; nothing below assumes anything
about them.
-/

namespace P4475

/-- A Rust string as its scalar values. -/
abbrev Text := List Char

/-- The two table-driven Unicode transformations the server links against. -/
structure Unicode where
  nfc : Text → Text
  caseFold : Text → Text

/-- `MAXIMUM_NICKNAME_LENGTH`, in UTF-16 code units. -/
def maximumNicknameLength : Nat := 32

/-- `RESERVED_WINDOWS_NAMES`. -/
def reservedWindowsNames : List Text :=
  [['C', 'O', 'N'], ['P', 'R', 'N'], ['A', 'U', 'X'], ['N', 'U', 'L']]
    ++ (['1', '2', '3', '4', '5', '6', '7', '8', '9'].map fun d => ['C', 'O', 'M', d])
    ++ (['1', '2', '3', '4', '5', '6', '7', '8', '9'].map fun d => ['L', 'P', 'T', d])

inductive NicknameError
  | empty
  | tooLong (maximum : Nat)
  | unsafePathComponent
  | invalidCharacter (codepoint : Nat)
  | reservedWindowsName (name : Text)
  deriving DecidableEq

/-- `char::is_whitespace`: the code points with property `White_Space`. -/
def isWhitespace (c : Char) : Bool :=
  (9 ≤ c.toNat && c.toNat ≤ 13) || c.toNat == 0x20 || c.toNat == 0x85 || c.toNat == 0xA0
    || c.toNat == 0x1680 || (0x2000 ≤ c.toNat && c.toNat ≤ 0x200A) || c.toNat == 0x2028
    || c.toNat == 0x2029 || c.toNat == 0x202F || c.toNat == 0x205F || c.toNat == 0x3000

/-- `char::is_control`: general category `Cc`. -/
def isControl (c : Char) : Bool :=
  c.toNat ≤ 0x1F || (0x7F ≤ c.toNat && c.toNat ≤ 0x9F)

/-- `str::trim`. -/
def trim (s : Text) : Text :=
  ((s.dropWhile isWhitespace).reverse.dropWhile isWhitespace).reverse

/-- `str::encode_utf16().count()`: a supplementary scalar takes two units. -/
def utf16Length (s : Text) : Nat :=
  (s.map fun c => if c.toNat < 0x10000 then 1 else 2).sum

/-- `str::eq_ignore_ascii_case`. -/
def eqIgnoreAsciiCase (a b : Text) : Bool :=
  a.map Char.toLower == b.map Char.toLower

/-- `to_ascii_lowercase`. -/
def toAsciiLowercase (text : Text) : Text := text.map Char.toLower

/-- `str::parse` of an unsigned integer of at most `maximum`. -/
def parseUnsigned (maximum : Nat) (text : Text) : Option Nat :=
  let digits := if text.head? = some '+' then text.tail else text
  if digits = [] then none
  else if digits.all Char.isDigit then
    let value := Nat.ofDigitChars 10 digits 0
    if value ≤ maximum then some value else none
  else none

def isInvalidWindowsPunctuation (c : Char) : Bool :=
  c ∈ ['<', '>', ':', '"', '/', '\\', '|', '?', '*']

/-- `normalize_nickname`. -/
def normalizeNickname (u : Unicode) (value : Text) : Except NicknameError Text :=
  let nickname := u.nfc (trim value)
  if nickname = [] then .error .empty
  else if maximumNicknameLength < utf16Length nickname then
    .error (.tooLong maximumNicknameLength)
  else if nickname = ['.'] ∨ nickname = ['.', '.'] ∨ nickname.getLast? = some '.'
      ∨ nickname.getLast? = some ' ' then
    .error .unsafePathComponent
  else
    match nickname.find? fun c => isControl c || isInvalidWindowsPunctuation c with
    | some c => .error (.invalidCharacter c.toNat)
    | none =>
      -- `nickname.split('.').next()`
      let baseName := nickname.takeWhile (· ≠ '.')
      if reservedWindowsNames.any (eqIgnoreAsciiCase baseName) then
        .error (.reservedWindowsName baseName)
      else .ok nickname

/-- `canonical_nickname_key`. -/
def canonicalNicknameKey (u : Unicode) (nickname : Text) : Text :=
  u.nfc (u.caseFold (u.nfc nickname))

end P4475
