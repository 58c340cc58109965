import JavaScribe.Json.Parser
import JavaScribe.Proofs.DecimalNumerals
import Mathlib.Data.Nat.Digits.Defs

/-!
# Integers in JSON texts

An integer that is written in decimal digits is read back, if it has no more digits than are read
and the text goes on with nothing that would belong to the number.
-/

set_option autoImplicit false

namespace JavaScribe.Json

/-- The decimal digits of an integer, without its sign. -/
def digitsOf (n : Int) : List Char := Nat.toDigits 10 n.natAbs

/-- Whether a number ends where the text goes on. -/
def EndsNumber (cs : List Char) : Prop :=
  ∀ c ∈ cs.head?, c.isDigit = false ∧ c ≠ '.' ∧ c ≠ 'e' ∧ c ≠ 'E'

/-- A number ends where the text does. -/
theorem endsNumber_nil : EndsNumber [] := by
  intro c hc
  cases hc

/-- A number ends at a character that could not go on with it. -/
theorem endsNumber_cons {c : Char} (h : c.isDigit = false ∧ c ≠ '.' ∧ c ≠ 'e' ∧ c ≠ 'E')
    (cs : List Char) : EndsNumber (c :: cs) := by
  intro d hd
  obtain rfl := Option.some.inj hd
  exact h

section Digits

variable {rest : List Char}

/-- Digits are read up to the end of the number. -/
theorem spanDigits_append {ds : List Char} (hds : ∀ c ∈ ds, c.isDigit = true)
    (hrest : EndsNumber rest) : spanDigits (ds ++ rest) = (ds, rest) :=
  Text.span_isDigit_append hds fun c hc => (hrest c hc).1

/-- Only zero itself starts with a zero. -/
theorem toDigits_eq_cons {n : Nat} (hn : n ≠ 0) :
    ∃ d ds, Nat.toDigits 10 n = d :: ds ∧ d ≠ '0' := by
  induction n using Nat.strong_induction_on with
  | _ n ih =>
    rw [Nat.toDigits_eq_if (by decide)]
    by_cases hlt : n < 10
    · rw [if_pos hlt]
      exact ⟨n.digitChar, [], rfl, fun h => hn (Nat.digitChar_eq_zero.mp h)⟩
    · rw [if_neg hlt]
      obtain ⟨d, ds, hdigits, hd⟩ := ih (n / 10) (by omega) (by omega)
      exact ⟨d, ds ++ [(n % 10).digitChar], by rw [hdigits]; rfl, hd⟩

/-- The decimal digits of a number are read as its whole part, since none of them but zero starts
with zero. -/
theorem spanWhole_toDigits (n : Nat) (hrest : EndsNumber rest) :
    spanWhole (Nat.toDigits 10 n ++ rest) = (Nat.toDigits 10 n, rest) := by
  have hdigits : ∀ c ∈ Nat.toDigits 10 n, c.isDigit = true := fun c hc =>
    Nat.isDigit_of_mem_toDigits (by decide) (by decide) hc
  have hspan := spanDigits_append hdigits hrest
  by_cases hn : n = 0
  · subst hn
    rfl
  · obtain ⟨d, ds, hcons, hd⟩ := toDigits_eq_cons hn
    rw [hcons] at hspan ⊢
    rw [List.cons_append, spanWhole]
    · exact hspan
    · intro cs hcs
      exact hd (List.cons.inj hcs).1

/-- Where a number ends there is no fraction. -/
theorem spanFraction_of_endsNumber (hrest : EndsNumber rest) : spanFraction rest = ([], rest) := by
  cases rest with
  | nil => rfl
  | cons c rest =>
    rw [spanFraction]
    intro cs hcs
    exact (hrest c rfl).2.1 (List.cons.inj hcs).1

/-- Where a number ends there is no exponent. -/
theorem spanExponent_of_endsNumber (hrest : EndsNumber rest) : spanExponent rest = ([], rest) := by
  cases rest with
  | nil => rfl
  | cons c rest =>
    obtain ⟨-, -, he, hE⟩ := hrest c rfl
    rw [spanExponent, if_neg (by simp [he, hE])]

/-- The decimal digits of a number are read as an integer, with or without a sign. -/
theorem readMagnitude_toDigits (negative : Bool) {n : Nat}
    (hlimit : (Nat.toDigits 10 n).length ≤ Text.digitLimit) (hrest : EndsNumber rest) :
    readMagnitude negative (Nat.toDigits 10 n ++ rest) =
      .ok (int (if negative then -(n : Int) else n), rest) := by
  have hnumeral : Text.readNumeral (Nat.toDigits 10 n) = .ok n := by
    rw [Text.readNumeral, if_pos hlimit, Text.numeralValue_toDigits]
  obtain ⟨d, ds, hcons⟩ := List.exists_cons_of_ne_nil (Nat.toDigits_ne_nil (n := n) (b := 10))
  rw [readMagnitude, spanWhole_toDigits n hrest, hcons]
  simp only [spanFraction_of_endsNumber hrest, spanExponent_of_endsNumber hrest, List.isEmpty_nil,
    Bool.and_self, if_true, ← hcons, hnumeral]

end Digits

/-- What starts with no word is not read as one. -/
theorem readWord?_eq_none {cs : List Char}
    (h : ∀ w ∈ wordValues, w.1.toList.isPrefixOf cs = false) : readWord? cs = none := by
  rw [readWord?, List.findSome?_eq_none_iff]
  intro w hw
  rw [h w hw]
  rfl

/-- A character that is no digit differs from every digit. -/
theorem ne_of_isDigit {c d : Char} (hc : c.isDigit = false) (hd : d.isDigit = true) : d ≠ c := by
  intro hdc
  rw [hdc, hc] at hd
  cases hd

/-- A number is not read as a word. -/
theorem readWord?_of_digit {d : Char} (hd : d.isDigit = true) (cs : List Char) :
    readWord? (d :: cs) = none ∧ readWord? ('-' :: d :: cs) = none := by
  have hne : ∀ c : Char, c.isDigit = false → c ≠ d := fun c hc => (ne_of_isDigit hc hd).symm
  constructor
  · apply readWord?_eq_none
    simp [wordValues, List.isPrefixOf, hne]
  · apply readWord?_eq_none
    simp [wordValues, List.isPrefixOf, hne]

/-- What starts with a digit, or with a sign and a digit, is read as a number. -/
theorem readScalar_of_digit {d : Char} (hd : d.isDigit = true) (cs : List Char) :
    readScalar (d :: cs) = readMagnitude false (d :: cs) ∧
      readScalar ('-' :: d :: cs) = readMagnitude true (d :: cs) := by
  obtain ⟨hplain, hminus⟩ := readWord?_of_digit hd cs
  constructor
  · rw [readScalar, hplain]
    intro rest hcs
    exact ne_of_isDigit rfl hd (List.cons.inj hcs).1
  · rw [readScalar, hminus]

/-- An integer is written as its digits, with a sign in front if it is negative. -/
theorem toString_eq_digitsOf (n : Int) :
    (toString n).toList = if n < 0 then '-' :: digitsOf n else digitsOf n := by
  have hnat : ∀ m : Nat, (Nat.repr m).toList = Nat.toDigits 10 m := by
    intro m
    rw [← Nat.toString_eq_repr, Nat.toString_eq_ofList_toDigits, String.toList_ofList]
  rw [Int.toString_eq_repr, Int.repr_eq_if]
  by_cases hn : n < 0
  · have habs : (-n).toNat = n.natAbs := by omega
    rw [if_neg (by omega), if_pos hn, habs, String.toList_append, hnat]
    rfl
  · have habs : n.toNat = n.natAbs := by omega
    rw [if_pos (by omega), if_neg hn, habs, hnat]
    rfl

/-- Every integer has at least one digit. -/
theorem digitsOf_eq_cons (n : Int) : ∃ d ds, digitsOf n = d :: ds ∧ d.isDigit = true := by
  obtain ⟨d, ds, hcons⟩ : ∃ d ds, Nat.toDigits 10 n.natAbs = d :: ds :=
    List.exists_cons_of_ne_nil Nat.toDigits_ne_nil
  refine ⟨d, ds, hcons, ?_⟩
  apply Nat.isDigit_of_mem_toDigits (b := 10) (n := n.natAbs) (by decide) (by decide)
  rw [hcons]
  exact List.mem_cons_self

/-- An integer with few enough digits is read as it was written. -/
theorem readScalar_toString {n : Int} (hlimit : (digitsOf n).length ≤ Text.digitLimit)
    {rest : List Char} (hrest : EndsNumber rest) :
    readScalar ((toString n).toList ++ rest) = .ok (int n, rest) := by
  obtain ⟨d, ds, hcons, hd⟩ := digitsOf_eq_cons n
  obtain ⟨hplain, hminus⟩ := readScalar_of_digit hd (ds ++ rest)
  have hread : ∀ negative, readMagnitude negative (d :: (ds ++ rest)) =
      .ok (int (if negative then -(n.natAbs : Int) else n.natAbs), rest) := by
    intro negative
    rw [← List.cons_append, ← hcons]
    exact readMagnitude_toDigits negative hlimit hrest
  rw [toString_eq_digitsOf, hcons]
  by_cases hn : n < 0
  · have hvalue : -(n.natAbs : Int) = n := by omega
    rw [if_pos hn, List.cons_append, List.cons_append, hminus, hread, if_pos rfl, hvalue]
  · have hvalue : (n.natAbs : Int) = n := by omega
    rw [if_neg hn, List.cons_append, hplain, hread]
    simp [hvalue]

end JavaScribe.Json
