import BackendBoilerplate.Lib.JsString
import Mathlib.Data.Int.Log
import Mathlib.Data.Rat.Floor

/-!
`Number(text)`: the numeric literals of JavaScript, rounded to doubles. NaN and the
infinities are none, and there is one zero.
-/
namespace JavaScript

/-- The nearest integer, and the even one of two that are. -/
def roundEven (q : ℚ) : ℤ :=
  if q - ⌊q⌋ < 1 / 2 ∨ q - ⌊q⌋ = 1 / 2 ∧ ⌊q⌋ % 2 = 0 then ⌊q⌋ else ⌊q⌋ + 1

/-- The place of the last of the 53 bits, which is never below that of the subnormals. -/
def doubleExponent (q : ℚ) : ℤ := max (Int.log 2 q - 52) (-1074)

/-- The double nearest to a number that is not negative, unless that is infinity. -/
def toDouble (q : ℚ) : Option ℚ :=
  let double := roundEven (q / 2 ^ doubleExponent q) * (2 : ℚ) ^ doubleExponent q
  if double < 2 ^ 1024 then some double else none

/-- The digits of a number: nothing else, and at least one. -/
def allDigits (text : List Char) : Option Nat :=
  if text ≠ [] ∧ text.all Char.isDigit then some (parseNat text) else none

/-- `e` or `E` and a signed number, if anything. -/
def exponentPart : List Char → Option ℤ
  | [] => some 0
  | c :: text =>
      if c = 'e' ∨ c = 'E' then
        match text with
        | '-' :: digits => (allDigits digits).map fun n => -(n : ℤ)
        | '+' :: digits => (allDigits digits).map Int.ofNat
        | digits => (allDigits digits).map Int.ofNat
      else none

/-- Decimal digits, perhaps with a point among them or at an end, and an exponent. -/
def unsignedDecimal (text : List Char) : Option ℚ :=
  let whole := text.takeWhile Char.isDigit
  let (fraction, rest) := match text.dropWhile Char.isDigit with
    | '.' :: rest => (rest.takeWhile Char.isDigit, rest.dropWhile Char.isDigit)
    | rest => ([], rest)
  if whole = [] ∧ fraction = [] then none
  else (exponentPart rest).map fun e : ℤ =>
    (parseNat (whole ++ fraction) : ℚ) * (10 : ℚ) ^ (e - fraction.length)

def radixDigit (radix : Nat) (c : Char) : Option Nat :=
  (if c.isDigit then some (c.toNat - '0'.toNat)
    else if 'a' ≤ c ∧ c ≤ 'f' then some (c.toNat - 'a'.toNat + 10)
    else if 'A' ≤ c ∧ c ≤ 'F' then some (c.toNat - 'A'.toNat + 10)
    else none).filter (· < radix)

/-- The digits after `0x`, `0o` or `0b`. -/
def radixNumber (radix : Nat) (digits : List Char) : Option ℚ :=
  if digits = [] then none
  else (digits.foldlM (fun n c => (radixDigit radix c).map (n * radix + ·)) 0).map Nat.cast

/-- White space and line terminators are taken off both ends. -/
def trim (text : List Char) : List Char :=
  ((text.dropWhile isSpace).reverse.dropWhile isSpace).reverse

/-- `Number(text)`. -/
def number (text : List Char) : Option ℚ :=
  match trim text with
  | [] => some 0
  | '0' :: 'x' :: digits | '0' :: 'X' :: digits => (radixNumber 16 digits).bind toDouble
  | '0' :: 'o' :: digits | '0' :: 'O' :: digits => (radixNumber 8 digits).bind toDouble
  | '0' :: 'b' :: digits | '0' :: 'B' :: digits => (radixNumber 2 digits).bind toDouble
  | '-' :: digits => ((unsignedDecimal digits).bind toDouble).map Neg.neg
  | '+' :: digits => (unsignedDecimal digits).bind toDouble
  | digits => (unsignedDecimal digits).bind toDouble

end JavaScript
