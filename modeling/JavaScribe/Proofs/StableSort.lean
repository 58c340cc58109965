import Mathlib.Data.List.Basic
import Mathlib.Data.List.Sort
import Mathlib.Data.List.Flatten

/-!
# Sorting by a key

Members and import entries are sorted by a key that does not tell all of them apart.  Here is what
a stable sort by such a key is determined by.  For each key, the elements with this key come in the
order in which they were given (`filter_mergeSort`), and a sorted list is put together from these
classes in one way only (`eq_of_filter_eq`).  So two lists with the same classes are sorted alike,
and a sorted list falls into its classes one after the other (`eq_flatMap_filter`).

The keys themselves come in an order that does not depend on how the elements were given at all
(`map_key_mergeSort_eq_of_perm`).
-/

set_option autoImplicit false

namespace JavaScribe.StableSort

open Std (TransCmp LawfulEqCmp)

variable {α κ : Type} (cmp : κ → κ → Ordering) (key : α → κ)

/-- The order of elements by their keys. -/
abbrev precedes (a b : α) : Bool := (cmp (key a) (key b)).isLE

section Order

variable [TransCmp cmp]

/-- Coming no later is transitive. -/
theorem precedes_trans (a b c : α) :
    precedes cmp key a b = true → precedes cmp key b c = true → precedes cmp key a c = true :=
  fun hab hbc => TransCmp.isLE_trans hab hbc

/-- Of two elements one comes no later than the other. -/
theorem precedes_total (a b : α) : (precedes cmp key a b || precedes cmp key b a) = true := by
  have h : cmp (key a) (key b) = (cmp (key b) (key a)).swap := Std.OrientedCmp.eq_swap
  simp only [precedes, h]
  cases cmp (key b) (key a) <;> rfl

/-- Elements with one key may stand in either order. -/
theorem precedes_of_key_eq {a b : α} (h : key a = key b) : precedes cmp key a b = true := by
  simp only [precedes, h, Std.ReflCmp.compare_self, Ordering.isLE]

/-- A list that is sorted by a key is in the order of the keys. -/
theorem pairwise_mergeSort (l : List α) :
    (l.mergeSort (precedes cmp key)).Pairwise fun a b => precedes cmp key a b = true :=
  List.pairwise_mergeSort (precedes_trans cmp key) (precedes_total cmp key) l

variable [DecidableEq κ]

/-- Elements with one key keep their order. -/
theorem filter_mergeSort (l : List α) (k : κ) :
    (l.mergeSort (precedes cmp key)).filter (fun a => decide (key a = k)) =
      l.filter fun a => decide (key a = k) := by
  have hclass : (l.filter fun a => decide (key a = k)).Pairwise
      fun a b => precedes cmp key a b = true := by
    refine List.pairwise_of_forall_mem_list fun a ha b hb => ?_
    have ha : key a = k := by simpa using (List.mem_filter.mp ha).2
    have hb : key b = k := by simpa using (List.mem_filter.mp hb).2
    exact precedes_of_key_eq cmp key (ha.trans hb.symm)
  -- the class is in order as it is, so sorting `l` leaves it as a sublist; since sorting neither
  -- adds nor loses elements of the class, the sublist is all of it
  have hsub := List.sublist_mergeSort (precedes_trans cmp key) (precedes_total cmp key) hclass
    (List.filter_sublist (p := fun a => decide (key a = k)))
  have hsub' := hsub.filter fun a => decide (key a = k)
  rw [List.filter_filter] at hsub'
  simp only [Bool.and_self] at hsub'
  refine (hsub'.eq_of_length ?_).symm
  exact ((List.mergeSort_perm l (precedes cmp key)).filter _).length_eq.symm

end Order

section Classes

variable [DecidableEq κ]

omit cmp in
/-- Lists with the same elements for every key have the same elements. -/
theorem mem_iff_of_filter_eq {l l' : List α}
    (h : ∀ k, l.filter (fun a => decide (key a = k)) = l'.filter fun a => decide (key a = k))
    (a : α) : a ∈ l ↔ a ∈ l' := by
  have hk := congrArg (a ∈ ·) (h (key a))
  simpa [List.mem_filter] using hk

omit cmp in
/-- Of the classes of several keys put together, those with one of the keys are its class. -/
theorem filter_flatMap_filter (l : List α) {ks : List κ} (hks : ks.Nodup) (k : κ) :
    (ks.flatMap fun j => l.filter fun a => decide (key a = j)).filter
        (fun a => decide (key a = k)) =
      if k ∈ ks then l.filter (fun a => decide (key a = k)) else [] := by
  induction ks with
  | nil => rfl
  | cons j ks ih =>
    obtain ⟨hj, hks⟩ := List.nodup_cons.mp hks
    rw [List.flatMap_cons, List.filter_append, ih hks, List.filter_filter]
    by_cases hjk : j = k
    · subst hjk
      simp [hj]
    · have hnone : l.filter (fun a => decide (key a = k) && decide (key a = j)) = [] := by
        refine List.filter_eq_nil_iff.mpr fun a _ => ?_
        simp only [Bool.and_eq_true, decide_eq_true_eq, not_and]
        exact fun hk hj => hjk (hj.symm.trans hk)
      rw [hnone, List.nil_append]
      simp [Ne.symm hjk]

variable [TransCmp cmp] [LawfulEqCmp cmp]

/-- A sorted list is determined by its classes of elements with one key. -/
theorem eq_of_filter_eq {l l' : List α}
    (hl : l.Pairwise fun a b => precedes cmp key a b = true)
    (hl' : l'.Pairwise fun a b => precedes cmp key a b = true)
    (h : ∀ k, l.filter (fun a => decide (key a = k)) = l'.filter fun a => decide (key a = k)) :
    l = l' := by
  induction l generalizing l' with
  | nil =>
    cases l' with
    | nil => rfl
    | cons b t => exact absurd ((mem_iff_of_filter_eq key h b).mpr List.mem_cons_self) (by simp)
  | cons a t ih =>
    have hmem := mem_iff_of_filter_eq key h
    cases l' with
    | nil => exact absurd ((hmem a).mp List.mem_cons_self) (by simp)
    | cons b t' =>
      -- both heads have the least key there is
      have hba : precedes cmp key b a = true := by
        rcases List.mem_cons.mp ((hmem a).mp List.mem_cons_self) with rfl | ha
        · exact precedes_of_key_eq cmp key rfl
        · exact (List.pairwise_cons.mp hl').1 a ha
      have hab : precedes cmp key a b = true := by
        rcases List.mem_cons.mp ((hmem b).mpr List.mem_cons_self) with rfl | hb
        · exact precedes_of_key_eq cmp key rfl
        · exact (List.pairwise_cons.mp hl).1 b hb
      have hkey : key a = key b :=
        LawfulEqCmp.eq_of_compare (Std.OrientedCmp.isLE_antisymm hab hba)
      have hhead := h (key a)
      rw [List.filter_cons_of_pos (by simp), List.filter_cons_of_pos (by simp [hkey])] at hhead
      obtain ⟨rfl, -⟩ := List.cons.inj hhead
      have htail : ∀ k, t.filter (fun x => decide (key x = k)) =
          t'.filter fun x => decide (key x = k) := by
        intro k
        have hk := h k
        by_cases hak : key a = k
        · rw [List.filter_cons_of_pos (by simp [hak]),
            List.filter_cons_of_pos (by simp [hak])] at hk
          exact (List.cons.inj hk).2
        · rwa [List.filter_cons_of_neg (by simp [hak]),
            List.filter_cons_of_neg (by simp [hak])] at hk
      exact congrArg (a :: ·) (ih hl.tail hl'.tail htail)

/-- Lists with the same elements for every key, in order, are sorted into the same list. -/
theorem mergeSort_eq_of_filter_eq {l l' : List α}
    (h : ∀ k, l.filter (fun a => decide (key a = k)) = l'.filter fun a => decide (key a = k)) :
    l.mergeSort (precedes cmp key) = l'.mergeSort (precedes cmp key) := by
  refine eq_of_filter_eq cmp key (pairwise_mergeSort cmp key l) (pairwise_mergeSort cmp key l') ?_
  intro k
  rw [filter_mergeSort, filter_mergeSort, h k]

/-- A sorted list falls into its classes, in the order of the keys. -/
theorem eq_flatMap_filter {l : List α} {ks : List κ}
    (hl : l.Pairwise fun a b => precedes cmp key a b = true)
    (hks : ks.Pairwise fun j k => cmp j k = .lt) (hcover : ∀ a ∈ l, key a ∈ ks) :
    l = ks.flatMap fun k => l.filter fun a => decide (key a = k) := by
  refine eq_of_filter_eq cmp key hl ?_ ?_
  · refine List.pairwise_flatMap.mpr ⟨fun k _ => hl.filter _, hks.imp ?_⟩
    intro j k hjk a ha b hb
    have ha : key a = j := by simpa using (List.mem_filter.mp ha).2
    have hb : key b = k := by simpa using (List.mem_filter.mp hb).2
    simp only [precedes, ha, hb, hjk, Ordering.isLE]
  · intro k
    have hnodup : ks.Nodup := hks.imp fun {i j} hij => by
      rintro rfl
      simp [Std.ReflCmp.compare_self] at hij
    rw [filter_flatMap_filter key l hnodup k]
    split
    · rfl
    · next hk =>
      refine List.filter_eq_nil_iff.mpr fun a ha => ?_
      simp only [decide_eq_true_eq]
      rintro rfl
      exact hk (hcover a ha)

omit [DecidableEq κ] in
/-- The keys of a sorted list do not depend on the order in which the elements were given. -/
theorem map_key_mergeSort_eq_of_perm {l l' : List α} (h : l.Perm l') :
    (l.mergeSort (precedes cmp key)).map key = (l'.mergeSort (precedes cmp key)).map key := by
  have hperm : ((l.mergeSort (precedes cmp key)).map key).Perm
      ((l'.mergeSort (precedes cmp key)).map key) :=
    (((List.mergeSort_perm l _).trans h).trans (List.mergeSort_perm l' _).symm).map key
  have hkeys : ∀ m : List α, ((m.mergeSort (precedes cmp key)).map key).Pairwise
      fun j k => (cmp j k).isLE = true :=
    fun m => List.pairwise_map.mpr (pairwise_mergeSort cmp key m)
  -- different elements may have one key, but different keys are never tied
  refine List.Perm.eq_of_pairwise ?_ (hkeys l) (hkeys l') hperm
  intro j k _ _ hjk hkj
  exact LawfulEqCmp.eq_of_compare (Std.OrientedCmp.isLE_antisymm hjk hkj)

end Classes

end JavaScribe.StableSort
