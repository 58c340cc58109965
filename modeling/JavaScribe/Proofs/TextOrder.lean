import Mathlib.Data.String.Basic
import Mathlib.Order.Compare

/-!
# The order of texts

Texts are ordered by their characters, of which the first ones that differ decide, and a text comes
before those that go on.  Lists of texts are ordered in the same way.  Here is how a comparison of
lists falls into comparisons of their parts.
-/

set_option autoImplicit false

namespace JavaScribe

section

variable {α : Type} [LinearOrder α]

/-- Lists are compared by their first elements, and by the rest if these are equal. -/
theorem compare_cons (a b : α) (as bs : List α) :
    compare (a :: as) (b :: bs) = (compare a b).then (compare as bs) := by
  simp only [List.compare_eq_compareLex, List.compareLex_cons_cons]

/-- Comparing two lists says which one is less. -/
theorem compare_list_eq_lt_iff {as bs : List α} : compare as bs = .lt ↔ as < bs := by
  induction as generalizing bs with
  | nil => cases bs <;> simp
  | cons a as ih =>
    cases bs with
    | nil => simp
    | cons b bs =>
      rw [compare_cons, Ordering.then_eq_lt, List.cons_lt_cons_iff, compare_lt_iff_lt,
        Std.compare_eq_iff_eq, ih]

/-- Of two lists with beginnings of one length, the beginnings are compared first. -/
theorem compare_append {as bs : List α} (h : as.length = bs.length) (cs ds : List α) :
    compare (as ++ cs) (bs ++ ds) = (compare as bs).then (compare cs ds) := by
  induction as generalizing bs with
  | nil =>
    obtain rfl := List.length_eq_zero_iff.mp h.symm
    rfl
  | cons a as ih =>
    cases bs with
    | nil => cases h
    | cons b bs =>
      have hrest := ih (Nat.succ.inj h)
      rw [List.cons_append, List.cons_append, compare_cons, hrest, compare_cons,
        Ordering.then_assoc]

end

/-- Texts are compared as the lists of their characters. -/
theorem compare_toList (s t : String) : compare s.toList t.toList = compare s t := by
  rcases lt_trichotomy s t with h | rfl | h
  · rw [compare_lt_iff_lt.mpr h, compare_list_eq_lt_iff]
    exact String.lt_iff_toList_lt.mp h
  · rw [compare_eq_iff_eq.mpr rfl, Std.compare_eq_iff_eq]
  · rw [compare_gt_iff_gt.mpr h, Std.OrientedCmp.gt_iff_lt, compare_list_eq_lt_iff]
    exact String.lt_iff_toList_lt.mp h

end JavaScribe
