import JavaScribe.Floating.Basic

/-!
# Shortest decimals

A floating-point number is written with as few digits as are enough to tell it from all others,
and of the decimals with so few digits the nearest one is taken.  Very large and very small numbers
are written with an exponent.
-/

set_option autoImplicit false

namespace JavaScribe.Floating

/-- The multiple of a power of ten that stands for the number `mantissa * 2 ^ exponent`, if there is
one.  It lies between the points half-way to the neighbours of the number, which are counted in
quarters of the last binary digit; the points themselves stand for an even number. -/
def decimalAt? (mantissa : Nat) (exponent power : Int) : Option Nat :=
  let (a, b) := quotient 1 (exponent - 2) (-power)
  let value := 4 * mantissa * a
  let below := if mantissa = Nat.pow 2 (precision - 1) ∧ leastExponent < exponent then 1 else 2
  let low := (4 * mantissa - below) * a
  let high := (4 * mantissa + 2) * a
  let stands (n : Nat) : Bool :=
    if mantissa % 2 = 0 then low ≤ n * b && n * b ≤ high else low < n * b && n * b < high
  let n := value / b
  let nearest := roundQuotient value b
  if stands n && stands (n + 1) then some nearest
  else if stands n then some n
  else if stands (n + 1) then some (n + 1)
  else none

/-- The powers of ten that the digits of a number can be counted in, the greatest first. -/
def powers : List Int := (List.range 634).map fun (i : Nat) => greatestPower - i

/-- The digits of the shortest decimal of a positive number, and the power of ten of the last
one. -/
def shortest (mantissa : Nat) (exponent : Int) : Nat × Int :=
  (powers.findSome? fun p => (decimalAt? mantissa exponent p).map fun n => (n, p)).getD (0, 0)

/-- A run of the digit zero; nothing if the length is negative. -/
def zeros (n : Int) : List Char := List.replicate n.toNat '0'

/-- The exponent of a decimal in its written form, with a sign and two digits at least. -/
def exponentText (e : Int) : List Char :=
  let digits := Nat.toDigits 10 e.natAbs
  (if e < 0 then '-' else '+') :: zeros (2 - digits.length) ++ digits

/-- A positive decimal in its written form.  The point is given by the number of digits in front of
it, and stands among the digits or close to them, or else an exponent is written. -/
def decimalText (digits : List Char) (point : Int) : List Char :=
  if -4 < point ∧ point ≤ 0 then '0' :: '.' :: zeros (-point) ++ digits
  else if 0 < point ∧ point < digits.length then
    digits.take point.toNat ++ '.' :: digits.drop point.toNat
  else if 0 < point ∧ point ≤ 16 then digits ++ zeros (point - digits.length) ++ ['.', '0']
  else
    let fraction := if digits.length ≤ 1 then [] else '.' :: digits.drop 1
    digits.take 1 ++ fraction ++ 'e' :: exponentText (point - 1)

/-- A number in its written form, given the words for an infinite and for an undefined one. -/
def text (infiniteWord undefinedWord : String) : Floating → String
  | undefined => undefinedWord
  | infinite negative => (if negative then "-" else "") ++ infiniteWord
  | finite negative mantissa exponent =>
    let (n, power) := shortest mantissa exponent
    let digits := Nat.toDigits 10 n
    let written :=
      if mantissa = 0 then ['0', '.', '0'] else decimalText digits (digits.length + power)
    (if negative then "-" else "") ++ String.ofList written

end JavaScribe.Floating
