/-!
# Decimal numerals

A numeral is a run of the digits 0 to 9; leading zeros are allowed.  Reading one is refused
beyond a fixed number of digits.
-/

set_option autoImplicit false

namespace JavaScribe.Text

/-- The longest numeral that is read, in digits. -/
def digitLimit : Nat := 4300

/-- A numeral was refused because of its length. -/
structure OverlongNumeral where
  digits : Nat
deriving DecidableEq, Repr

/-- The message for a numeral that has too many digits to be read. -/
def OverlongNumeral.message (e : OverlongNumeral) : String :=
  s!"Exceeds the limit ({digitLimit} digits) for integer string conversion: " ++
    s!"value has {e.digits} digits; use sys.set_int_max_str_digits() to increase the limit"

/-- The number that a digit stands for. -/
def digitValue (c : Char) : Nat := c.toNat - 0x30

/-- The number that the digits of a numeral stand for. -/
def numeralValue (ds : List Char) : Nat := ds.foldl (fun n c => 10 * n + digitValue c) 0

/-- Reads a run of digits, if it is not too long. -/
def readNumeral (ds : List Char) : Except OverlongNumeral Nat :=
  if ds.length ≤ digitLimit then .ok (numeralValue ds) else .error ⟨ds.length⟩

end JavaScribe.Text
