import JavaScribe.Text.Lowercase
import Mathlib.Data.List.Basic

/-!
# Lowering a text twice

A lowered text has nothing left to lower: no shift of a run of capitals leads to another capital.
Names that differ in case only have one key for this reason, and a key is a key of itself.
-/

set_option autoImplicit false

namespace JavaScribe.Text

namespace CapitalRun

/-- The lower case of a code point of the run. -/
def lowered (r : CapitalRun) (n : Nat) : Nat := (n + r.shift).toNat

/-- Whether no code point from `first` to `last` is in the run.  Where only every second code point
counts on both sides, an odd distance is enough. -/
def avoids (q : CapitalRun) (first last : Nat) (alternate : Bool) : Bool :=
  Nat.blt last q.first || Nat.blt q.last first ||
    (alternate && q.step == 2 && (first + q.first) % 2 == 1)

/-- Which code points belong to a run of capitals. -/
theorem contains_iff {r : CapitalRun} {n : Nat} :
    r.contains n = true ↔ r.first ≤ n ∧ n ≤ r.last ∧ (n - r.first) % r.step = 0 := by
  simp only [contains, Bool.and_eq_true, decide_eq_true_eq, beq_iff_eq, and_assoc]

/-- If a run keeps clear of what another one is lowered to, no letter of the one is lowered into the
other. -/
theorem contains_lowered_eq_false {r q : CapitalRun} {n : Nat}
    (hq : q.avoids (r.lowered r.first) (r.lowered r.last) (r.step == 2 || r.first == r.last) = true)
    (hr : 0 ≤ r.first + r.shift) (hn : r.contains n = true) :
    q.contains (r.lowered n) = false := by
  rw [Bool.eq_false_iff]
  intro hm
  obtain ⟨hfirst, hlast, hstep⟩ := contains_iff.1 hn
  obtain ⟨hbelow, habove, hskip⟩ := contains_iff.1 hm
  simp only [avoids, Bool.or_eq_true, Bool.and_eq_true, Nat.blt_eq, beq_iff_eq] at hq
  simp only [lowered] at hq hbelow habove hskip
  obtain (hq | hq) | ⟨⟨halternate, htwo⟩, hodd⟩ := hq
  · omega
  · omega
  · rw [htwo] at hskip
    have heven : (n - r.first) % 2 = 0 := by
      obtain hr | hr := halternate
      · rwa [hr] at hstep
      · omega
    omega

end CapitalRun

/-- The code points that change when lowered.  The capital I with a dot is in none of the runs of
capitals, since its lower case is two characters. -/
def loweredRuns : List CapitalRun := ⟨0x130, 0x130, 1, 0⟩ :: capitalRuns

/-- A character that stays as it is, wherever it stands. -/
def IsLow (c : Char) : Prop := ∀ r ∈ loweredRuns, r.contains c.toNat = false

/-- All runs of capitals keep clear of what they are lowered to. -/
theorem avoids_of_mem_capitalRuns : ∀ r ∈ capitalRuns,
    0 ≤ r.first + r.shift ∧
      loweredRuns.all (fun q => q.avoids (r.lowered r.first) (r.lowered r.last)
        (r.step == 2 || r.first == r.last)) = true := by
  decide +kernel

/-- Whether a character stays as it is can be decided by the table. -/
instance (c : Char) : Decidable (IsLow c) :=
  inferInstanceAs (Decidable (∀ r ∈ loweredRuns, r.contains c.toNat = false))

/-- A code point outside all runs is that of a character that stays as it is. -/
theorem isLow_ofNat {n : Nat} (h : ∀ r ∈ loweredRuns, r.contains n = false) :
    IsLow (Char.ofNat n) := by
  by_cases hn : n.isValidChar
  · rw [Char.ofNat, dif_pos hn]
    exact h
  · -- What is no code point becomes the null character.
    have hnull : IsLow (Char.ofNat 0) := by decide +kernel
    rw [Char.ofNat, dif_neg hn]
    exact hnull

/-- What a single character is lowered to stays as it is. -/
theorem isLow_lowerChar {c : Char} (hc : c ≠ 'İ') : IsLow (lowerChar c) := by
  unfold lowerChar
  cases hfind : capitalRuns.find? (·.contains c.toNat) with
  | none =>
    intro q hq
    obtain rfl | hq := List.mem_cons.1 hq
    · rw [Bool.eq_false_iff]
      intro hdot
      obtain ⟨hge, hle, -⟩ := CapitalRun.contains_iff.1 hdot
      exact hc (Char.toNat_inj.1 (Nat.le_antisymm hle hge))
    · exact Bool.eq_false_iff.2 (List.find?_eq_none.1 hfind q hq)
  | some r =>
    have hin := List.find?_some hfind
    obtain ⟨hr, havoids⟩ := avoids_of_mem_capitalRuns r (List.mem_of_find?_eq_some hfind)
    refine isLow_ofNat fun q hq => ?_
    exact CapitalRun.contains_lowered_eq_false (List.all_eq_true.1 havoids q hq) hr hin

/-- All characters that one is lowered to at its place stay as they are. -/
theorem isLow_of_mem_lowerAt {before after : List Char} {c d : Char}
    (hd : d ∈ lowerAt before c after) : IsLow d := by
  unfold lowerAt at hd
  split at hd
  · rw [List.mem_singleton] at hd
    have hlow : IsLow 'ς' ∧ IsLow 'σ' := by decide +kernel
    split at hd
    · exact hd ▸ hlow.1
    · exact hd ▸ hlow.2
  · split at hd
    · have hlow : IsLow 'i' ∧ IsLow '\u0307' := by decide +kernel
      obtain rfl | hd := List.mem_cons.1 hd
      · exact hlow.1
      · exact List.mem_singleton.1 hd ▸ hlow.2
    · rename_i hdot
      rw [List.mem_singleton.1 hd]
      exact isLow_lowerChar hdot

/-- All characters of a lowered text stay as they are. -/
theorem isLow_of_mem_lowerFrom {before cs : List Char} {d : Char}
    (hd : d ∈ lowerFrom before cs) : IsLow d := by
  induction cs generalizing before with
  | nil => cases hd
  | cons c after ih =>
    obtain hd | hd := List.mem_append.1 hd
    · exact isLow_of_mem_lowerAt hd
    · exact ih hd

/-- A character that stays as it is does so at every place. -/
theorem lowerAt_of_isLow {before after : List Char} {c : Char} (hc : IsLow c) :
    lowerAt before c after = [c] := by
  have hsigma : c ≠ 'Σ' := by
    rintro rfl
    exact absurd hc (by decide +kernel)
  have hdot : c ≠ 'İ' := by
    rintro rfl
    exact absurd hc (by decide +kernel)
  have hfind : capitalRuns.find? (·.contains c.toNat) = none := by
    rw [List.find?_eq_none]
    intro r hr
    simp [hc r (List.mem_cons_of_mem _ hr)]
  rw [lowerAt, if_neg hsigma, if_neg hdot, lowerChar, hfind]

/-- A text of characters that stay as they are does so itself. -/
theorem lowerFrom_of_isLow {before cs : List Char} (h : ∀ c ∈ cs, IsLow c) :
    lowerFrom before cs = cs := by
  induction cs generalizing before with
  | nil => rfl
  | cons c after ih =>
    have hc := h c List.mem_cons_self
    have hafter := fun d hd => h d (List.mem_cons_of_mem _ hd)
    rw [lowerFrom, lowerAt_of_isLow hc, ih hafter]
    rfl

/-- Lowering a text twice is lowering it once. -/
@[simp]
theorem lowercase_lowercase (s : String) : lowercase (lowercase s) = lowercase s := by
  have hlow : ∀ c ∈ lowerFrom [] s.toList, IsLow c := fun c hc => isLow_of_mem_lowerFrom hc
  unfold lowercase
  rw [String.toList_ofList, lowerFrom_of_isLow hlow]

end JavaScribe.Text
