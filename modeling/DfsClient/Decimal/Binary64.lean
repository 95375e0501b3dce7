/-! Floating point numbers of 64 bits, kept as exact mantissas and exponents.
Reading a decimal rounds once, to the nearest number, ties to the even mantissa. -/

namespace DfsClient.Decimal

/-- A finite number is `mantissa * 2 ^ exponent` up to sign. The mantissa stays
below `2 ^ 53`, the exponent is at least `-1074`, and it is larger only when the
mantissa needs all of its 53 bits. -/
inductive Binary64 where
  | nan
  | infinite (negative : Bool)
  | finite (negative : Bool) (mantissa : Nat) (exponent : Int)
deriving DecidableEq, Repr

/-- The least mantissa that needs all 53 bits. -/
def leastNormal : Nat := Nat.pow 2 52

/-- The nearest whole number to a quotient, the even one of two. -/
def roundDiv (numerator denominator : Nat) : Nat :=
  let whole := numerator / denominator
  let rest := numerator % denominator
  if 2 * rest < denominator then whole
  else if denominator < 2 * rest then whole + 1
  else if whole % 2 = 0 then whole else whole + 1

/-- A quotient scaled by a power of `base`, as a numerator and a denominator. -/
def scaled (base numerator denominator : Nat) (exponent : Int) : Nat × Nat :=
  if 0 ≤ exponent then (numerator * Nat.pow base exponent.toNat, denominator)
  else (numerator, denominator * Nat.pow base (-exponent).toNat)

namespace Binary64

def leastExponent : Int := -1074
def greatestExponent : Int := 971

/-- The largest `e` with `2 ^ e` at most the quotient, for positive parts. -/
def binaryExponent (numerator denominator : Nat) : Int :=
  let guess : Int := (numerator.log2 : Int) - denominator.log2
  let (unit, whole) := scaled 2 denominator numerator guess
  if unit ≤ whole then guess else guess - 1

def ofRatio (negative : Bool) (numerator denominator : Nat) : Binary64 :=
  let exponent := max (binaryExponent numerator denominator - 52) leastExponent
  let (top, bottom) := scaled 2 numerator denominator (-exponent)
  let mantissa := roundDiv top bottom
  let (mantissa, exponent) :=
    if mantissa = 2 * leastNormal then (leastNormal, exponent + 1) else (mantissa, exponent)
  if greatestExponent < exponent then .infinite negative else .finite negative mantissa exponent

def zero (negative : Bool) : Binary64 := .finite negative 0 leastExponent

/-- The number nearest to `digits * 10 ^ exponent`. Sizes far outside the range
of finite numbers are settled by counting digits. -/
def ofDecimal (negative : Bool) (digits : Nat) (exponent : Int) : Binary64 :=
  let size := exponent + (Nat.toDigits 10 digits).length
  if digits = 0 ∨ size < -330 then zero negative
  else if 310 < size then .infinite negative
  else
    let (numerator, denominator) := scaled 10 digits 1 exponent
    ofRatio negative numerator denominator

def isNegative : Binary64 → Bool
  | .nan => false
  | .infinite negative => negative
  | .finite negative _ _ => negative

end Binary64
end DfsClient.Decimal
