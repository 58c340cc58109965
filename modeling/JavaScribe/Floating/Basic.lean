/-!
# Floating-point numbers

A number with a fraction or an exponent is kept with 53 binary digits.  Of the numbers that can be
kept, a decimal becomes the nearest one; of two that are equally near it becomes the one whose last
binary digit is zero.  What lies beyond the greatest such number is infinite.
-/

set_option autoImplicit false

namespace JavaScribe

/-- A number as it is kept. -/
inductive Floating where
  /-- The number `mantissa * 2 ^ exponent`, or its negative. -/
  | finite (negative : Bool) (mantissa : Nat) (exponent : Int)
  | infinite (negative : Bool)
  | undefined
deriving DecidableEq, Repr

namespace Floating

/-- How many binary digits a number has. -/
def precision : Nat := 53

/-- The exponent of the smallest numbers. -/
def leastExponent : Int := -1074

/-- The exponent of the greatest numbers. -/
def greatestExponent : Int := 971

/-- The number `m * 2 ^ twos * 10 ^ tens` as a quotient. -/
def quotient (m : Nat) (twos tens : Int) : Nat × Nat :=
  (m * Nat.pow 2 twos.toNat * Nat.pow 10 tens.toNat,
    Nat.pow 2 (-twos).toNat * Nat.pow 10 (-tens).toNat)

/-- The integer nearest to a quotient; of two that are equally near, the even one. -/
def roundQuotient (a b : Nat) : Nat :=
  let n := a / b
  let r := a % b
  if b < 2 * r ∨ (b = 2 * r ∧ n % 2 = 1) then n + 1 else n

/-- The exponent with which a positive quotient is kept.  The first guess is right or one less. -/
def exponentOf (a b : Nat) : Int :=
  let guess : Int := (Nat.log2 a : Int) - Nat.log2 b - precision
  let scaled := quotient a (-guess) 0
  max leastExponent (if Nat.pow 2 precision ≤ scaled.1 / (scaled.2 * b) then guess + 1 else guess)

/-- The number nearest to a positive quotient. -/
def ofQuotient (negative : Bool) (a b : Nat) : Floating :=
  let exponent := exponentOf a b
  let scaled := quotient a (-exponent) 0
  let mantissa := roundQuotient scaled.1 (scaled.2 * b)
  let (mantissa, exponent) :=
    if mantissa = Nat.pow 2 precision then (Nat.pow 2 (precision - 1), exponent + 1)
    else (mantissa, exponent)
  if greatestExponent < exponent then infinite negative
  else finite negative mantissa exponent

/-- Zero, which has a sign. -/
def zero (negative : Bool) : Floating := finite negative 0 leastExponent

/-- The power of ten that no kept number reaches. -/
def greatestPower : Int := 309

/-- The power of ten below which every number is nearest to zero. -/
def leastPower : Int := -324

/-- The number nearest to the decimal `digits * 10 ^ power`. -/
def ofDecimal (negative : Bool) (digits : Nat) (power : Int) : Floating :=
  let size : Int := (Nat.toDigits 10 digits).length + power
  if digits = 0 ∨ size < leastPower then zero negative
  else if greatestPower < size then infinite negative
  else
    let (a, b) := quotient digits 0 power
    ofQuotient negative a b

/-- Whether a number is zero, of either sign. -/
def isZero : Floating → Bool
  | finite _ mantissa _ => mantissa == 0
  | _ => false

/-- The greatest integer that is not above the number, if the number is finite. -/
def floor? : Floating → Option Int
  | finite negative mantissa exponent =>
    let (a, b) := quotient mantissa exponent 0
    some (if negative then -((a + b - 1) / b : Nat) else (a / b : Nat))
  | _ => none

/-- An integer that is above every finite number. -/
def endless : Int := Nat.pow 2 (greatestExponent.toNat + precision)

/-- The greatest integer that is not above the number.  An infinite number counts as endless, and
so does an undefined one, which no number is above. -/
def floor (x : Floating) : Int := x.floor?.getD (if x = infinite true then -endless else endless)

/-- The integer that the number is, if it is one. -/
def integer? : Floating → Option Int
  | finite negative mantissa exponent =>
    let (a, b) := quotient mantissa exponent 0
    if a % b = 0 then some (if negative then -(a / b : Nat) else (a / b : Nat)) else none
  | _ => none

end Floating

end JavaScribe
