/-!
# The size of a number

A number that somebody asks for has to fit a floating-point number of 64 bits.  It is kept as a
significand of 64 bits and a power of ten, so a number of many digits loses its last ones.

* `Numeral.ofDigits` takes over as many digits as the significand has room for.
* `Numeral.isTooLarge` says whether the number exceeds all floating-point numbers: significand and
  power are rounded first, each for itself, and so is their product.
-/

set_option autoImplicit false

namespace EmojiLint
namespace Json

/-- A number without its sign: the value is `significand * 10 ^ exponent`. -/
structure Numeral where
  significand : Nat
  exponent : Int
deriving DecidableEq, Repr

/-! ## Digits -/

def digitValue (c : Char) : Nat :=
  c.toNat - '0'.toNat

/-- The number that digits spell. -/
def digitsValue (ds : List Char) : Nat :=
  ds.foldl (fun n d => n * 10 + digitValue d) 0

/-- Append digits to a number as long as it fits into 64 bits, and count those that are left over.
After the first that does not fit none is taken. -/
def appendDigits (n : Nat) : List Char → Nat × Nat
  | [] => (n, 0)
  | d :: ds =>
    if n * 10 + digitValue d < 1 <<< 64 then appendDigits (n * 10 + digitValue d) ds
    else (n, ds.length + 1)

/-- The number with the given digits before and after the point, and the given exponent. -/
def Numeral.ofDigits (front fraction : List Char) (exponent : Int) : Numeral :=
  let (n, dropped) := appendDigits 0 front
  let (n, unused) := appendDigits n fraction
  ⟨n, exponent + dropped - (fraction.length - unused)⟩

/-! ## Rounding -/

/-- The nearest number of 53 binary digits, followed by zeros.  A tie goes to the even one. -/
def roundBinary (n : Nat) : Nat :=
  let unit := 1 <<< (n.log2 - 52)
  let quotient := n / unit
  let twice := 2 * (n % unit)
  if unit < twice ∨ (unit = twice ∧ quotient % 2 = 1) then (quotient + 1) * unit
  else quotient * unit

/-- Whether a number is too large for a floating-point number of 64 bits.  Zero has any exponent,
and the first test keeps the power small. -/
def Numeral.isTooLarge (n : Numeral) : Bool :=
  if n.significand = 0 ∨ n.exponent < 0 then false
  else if 308 < n.exponent then true
  else
    1 <<< 1024 - 1 <<< 970 ≤
      roundBinary n.significand * roundBinary (Nat.pow 10 n.exponent.toNat)

end Json
end EmojiLint
