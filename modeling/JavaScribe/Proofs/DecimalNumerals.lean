import JavaScribe.Text.Numeral
import Mathlib.Data.List.Induction
import Mathlib.Data.List.TakeDrop

/-!
# What numerals denote

A numeral denotes the number whose decimal digits it shows, behind any zeros.  The value of a
numeral is computed from the left, ten times what was read and the next digit.  It is the number
that the numeral denotes, and the only one (`Text.denotes_iff`), however many digits there are.

A numeral ends where a text goes on with something else (`Text.span_isDigit_append`).
-/

set_option autoImplicit false

namespace JavaScribe.Text

/-- All digits at the front of a text are read, and nothing else. -/
theorem span_isDigit_append {ds rest : List Char} (hds : ∀ c ∈ ds, c.isDigit = true)
    (hrest : ∀ c ∈ rest.head?, c.isDigit = false) :
    (ds ++ rest).span Char.isDigit = (ds, rest) := by
  have hstop : rest.takeWhile Char.isDigit = [] ∧ rest.dropWhile Char.isDigit = rest := by
    cases rest with
    | nil => exact ⟨rfl, rfl⟩
    | cons c rest =>
      have hc := hrest c rfl
      simp [hc]
  rw [List.span_eq_takeWhile_dropWhile, List.takeWhile_append_of_pos hds,
    List.dropWhile_append_of_pos hds, hstop.1, hstop.2, List.append_nil]

/-- The code points of the digits. -/
theorem toNat_of_isDigit {c : Char} (h : c.isDigit = true) : 0x30 ≤ c.toNat ∧ c.toNat ≤ 0x39 :=
  Char.isDigit_iff_toNat.mp h

/-- A digit stands for less than ten. -/
theorem digitValue_lt {c : Char} (h : c.isDigit = true) : digitValue c < 10 := by
  have hc := toNat_of_isDigit h
  unfold digitValue
  omega

/-- A digit is how its value is written. -/
theorem toDigits_digitValue {c : Char} (h : c.isDigit = true) :
    Nat.toDigits 10 (digitValue c) = [c] := by
  have hc := toNat_of_isDigit h
  have hlt := digitValue_lt h
  have hchar : Nat.digitChar (digitValue c) = c := by
    apply Char.toNat_inj.mp
    rw [Nat.toNat_digitChar_of_lt_ten hlt, digitValue]
    omega
  rw [Nat.toDigits_of_lt_base hlt, hchar]

/-- One more digit makes ten times the value and adds its own. -/
theorem numeralValue_concat (ds : List Char) (d : Char) :
    numeralValue (ds ++ [d]) = 10 * numeralValue ds + digitValue d := by
  rw [numeralValue, List.foldl_append]
  rfl

/-- The decimal digits of a number stand for the number. -/
theorem numeralValue_toDigits (n : Nat) : numeralValue (Nat.toDigits 10 n) = n := by
  have hfold := Nat.ofDigitChars_ten_toDigits (n := n)
  rw [Nat.ofDigitChars_eq_foldl] at hfold
  exact hfold

/-- Zeros in front of a numeral do not count. -/
theorem numeralValue_zeros_append (zeros : Nat) (ds : List Char) :
    numeralValue (List.replicate zeros '0' ++ ds) = numeralValue ds := by
  induction zeros with
  | zero => rfl
  | succ zeros ih =>
    rw [List.replicate_succ, List.cons_append, ← ih]
    rfl

/-- Whether a numeral shows the decimal digits of a number, behind any zeros. -/
def Denotes (ds : List Char) (n : Nat) : Prop :=
  ∃ zeros, ds = List.replicate zeros '0' ++ Nat.toDigits 10 n

/-- A numeral that denotes a number has the number as its value. -/
theorem Denotes.numeralValue_eq {ds : List Char} {n : Nat} (h : Denotes ds n) :
    numeralValue ds = n := by
  obtain ⟨zeros, rfl⟩ := h
  rw [numeralValue_zeros_append, numeralValue_toDigits]

/-- One more digit at the end. -/
theorem Denotes.concat {ds : List Char} {n : Nat} (h : Denotes ds n) {d : Char}
    (hd : d.isDigit = true) : Denotes (ds ++ [d]) (10 * n + digitValue d) := by
  obtain ⟨zeros, rfl⟩ := h
  rcases Nat.eq_zero_or_pos n with rfl | hn
  · -- the digit of zero itself is a leading zero now
    refine ⟨zeros + 1, ?_⟩
    rw [Nat.mul_zero, Nat.zero_add, toDigits_digitValue hd, List.replicate_succ']
    rfl
  · refine ⟨zeros, ?_⟩
    rw [← Nat.toDigits_append_toDigits (by decide) hn (digitValue_lt hd), toDigits_digitValue hd,
      List.append_assoc]

/-- A numeral denotes the number that is its value. -/
theorem denotes_numeralValue {ds : List Char} (hne : ds ≠ [])
    (hds : ∀ c ∈ ds, c.isDigit = true) : Denotes ds (numeralValue ds) := by
  induction ds using List.reverseRecOn with
  | nil => exact absurd rfl hne
  | append_singleton ds d ih =>
    have hd := hds d (by simp)
    rw [numeralValue_concat]
    by_cases hfront : ds = []
    · subst hfront
      refine ⟨0, ?_⟩
      show [d] = Nat.toDigits 10 (0 + digitValue d)
      rw [Nat.zero_add, toDigits_digitValue hd]
    · exact (ih hfront fun c hc => hds c (List.mem_append_left _ hc)).concat hd

/-- A run of digits denotes its value and nothing else. -/
theorem denotes_iff {ds : List Char} (hne : ds ≠ []) (hds : ∀ c ∈ ds, c.isDigit = true) (n : Nat) :
    Denotes ds n ↔ n = numeralValue ds := by
  constructor
  · intro h
    exact h.numeralValue_eq.symm
  · rintro rfl
    exact denotes_numeralValue hne hds

end JavaScribe.Text
