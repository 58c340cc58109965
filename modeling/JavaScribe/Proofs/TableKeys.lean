import JavaScribe.Table
import Mathlib.Data.List.Nodup

/-!
# Keys of tables

Setting a key keeps the keys that are there and adds one that is new, so that a table made by
setting keys has each of them once, and looking a key up is finding its pair in the list.
-/

set_option autoImplicit false

namespace JavaScribe.Table

variable {α : Type} {t : Table α}

/-- The keys in order. -/
def keys (t : Table α) : List String := t.map (·.1)

/-- A key is there just if it is one of the keys. -/
theorem has_iff_mem_keys {k : String} : t.has k = true ↔ k ∈ t.keys := by
  simp only [has, keys, List.any_eq_true, beq_iff_eq, List.mem_map]

/-- There is no value just where there is no key. -/
theorem get?_eq_none_iff {k : String} : t.get? k = none ↔ t.has k = false := by
  rw [Option.eq_none_iff_forall_ne_some, Bool.eq_false_iff, Ne, has_iff, not_exists]

/-- Putting a value at a key adds the key at the end, unless it is there. -/
theorem keys_put (k : String) (v : α) :
    (t.put k v).keys = if k ∈ t.keys then t.keys else t.keys ++ [k] := by
  induction t with
  | nil => rfl
  | cons e t ih =>
    obtain ⟨l, w⟩ := e
    by_cases h : l = k
    · subst h
      simp [put, keys]
    · have hput : put ((l, w) :: t) k v = (l, w) :: put t k v := if_neg h
      have hcons : ∀ t : Table α, keys ((l, w) :: t) = l :: keys t := fun _ => rfl
      simp only [hput, hcons, ih, List.mem_cons, Ne.symm h, false_or]
      split <;> rfl

/-- After a value was put at a key, the keys are those before and this one. -/
theorem mem_keys_put {k l : String} {v : α} : l ∈ (t.put k v).keys ↔ l = k ∨ l ∈ t.keys := by
  rw [keys_put]
  split
  · rename_i hk
    constructor
    · intro hl
      exact .inr hl
    · rintro (rfl | hl)
      · exact hk
      · exact hl
  · rw [List.mem_append, List.mem_singleton, or_comm]

/-- Putting a value keeps keys apart. -/
theorem nodup_keys_put (h : t.keys.Nodup) (k : String) (v : α) : (t.put k v).keys.Nodup := by
  rw [keys_put]
  split
  · exact h
  · rename_i hk
    rw [List.nodup_append]
    refine ⟨h, List.nodup_singleton k, ?_⟩
    rintro a ha b hb rfl
    rw [List.mem_singleton] at hb
    rw [hb] at ha
    exact hk ha

/-- After a table was put into another one, the keys are those of both. -/
theorem mem_keys_putAll {u : Table α} {l : String} :
    l ∈ (t.putAll u).keys ↔ l ∈ u.keys ∨ l ∈ t.keys := by
  induction u generalizing t with
  | nil => simp [putAll, keys]
  | cons e u ih =>
    have hcons : keys (e :: u) = e.1 :: keys u := rfl
    have hstep : l ∈ (t.putAll (e :: u)).keys ↔ l ∈ keys u ∨ l ∈ (t.put e.1 e.2).keys := ih
    rw [hstep, mem_keys_put, hcons, List.mem_cons, or_left_comm, or_assoc]

/-- Putting a table into another one keeps keys apart. -/
theorem nodup_keys_putAll (h : t.keys.Nodup) (u : Table α) : (t.putAll u).keys.Nodup := by
  induction u generalizing t with
  | nil => exact h
  | cons e u ih => exact ih (nodup_keys_put h e.1 e.2)

/-- Putting in nothing but known keys does not change the keys. -/
theorem keys_putAll_of_subset {u : Table α} (h : ∀ k ∈ u.keys, k ∈ t.keys) :
    (t.putAll u).keys = t.keys := by
  induction u generalizing t with
  | nil => rfl
  | cons e u ih =>
    have hput : (t.put e.1 e.2).keys = t.keys := by
      rw [keys_put, if_pos (h e.1 List.mem_cons_self)]
    have hrest : ((t.put e.1 e.2).putAll u).keys = (t.put e.1 e.2).keys := by
      apply ih
      intro k hk
      rw [hput]
      exact h k (List.mem_cons_of_mem _ hk)
    exact hrest.trans hput

/-- A new key goes to the end of the table. -/
theorem put_of_not_mem {k : String} (h : k ∉ t.keys) (v : α) : t.put k v = t ++ [(k, v)] := by
  induction t with
  | nil => rfl
  | cons e t ih =>
    obtain ⟨l, w⟩ := e
    have hcons : keys ((l, w) :: t) = l :: keys t := rfl
    rw [hcons, List.mem_cons, not_or] at h
    rw [put, if_neg (Ne.symm h.1), ih h.2]
    rfl

/-- A table whose keys are all new goes to the end. -/
theorem putAll_eq_append {u : Table α} (h : (keys (t ++ u)).Nodup) : t.putAll u = t ++ u := by
  induction u generalizing t with
  | nil => exact (List.append_nil t).symm
  | cons e u ih =>
    have hkeys : keys (t ++ e :: u) = t.keys ++ e.1 :: keys u := List.map_append
    have hnew : e.1 ∉ t.keys := by
      rw [hkeys] at h
      exact fun hmem => (List.nodup_append.mp h).2.2 _ hmem _ List.mem_cons_self rfl
    have hsplit : t ++ e :: u = (t ++ [e]) ++ u := by simp
    have hstep : t.putAll (e :: u) = (t.put e.1 e.2).putAll u := rfl
    rw [hsplit] at h ⊢
    rw [hstep, put_of_not_mem hnew, ih h]

/-- If one value is put at several keys, it is found at these, and at others nothing has changed. -/
theorem get?_putAll_map (f : String → String) (as : List String) (v : α) (l : String) :
    (t.putAll (as.map fun a => (f a, v))).get? l =
      if l ∈ as.map f then some v else t.get? l := by
  induction as generalizing t with
  | nil => rfl
  | cons a as ih =>
    have hstep : (t.putAll ((a :: as).map fun a => (f a, v))).get? l =
        if l ∈ as.map f then some v else (t.put (f a) v).get? l := ih
    rw [hstep, get?_put, List.map_cons]
    by_cases hl : l ∈ as.map f
    · rw [if_pos hl, if_pos (List.mem_cons_of_mem _ hl)]
    · simp only [List.mem_cons, hl, or_false, if_false]

/-- In a table with keys apart, a value is found at a key just if the table has the entry. -/
theorem get?_eq_some_iff (h : t.keys.Nodup) {k : String} {v : α} :
    t.get? k = some v ↔ (k, v) ∈ t := by
  induction t with
  | nil => simp [get?]
  | cons e t ih =>
    obtain ⟨l, w⟩ := e
    obtain ⟨hl, ht⟩ := List.nodup_cons.1 h
    have ih := ih ht
    simp only [get?] at ih
    by_cases hk : k = l
    · subst hk
      have hnot : (k, v) ∉ t := fun hv => hl (List.mem_map.2 ⟨_, hv, rfl⟩)
      simp [get?, hnot, eq_comm]
    · simp [get?, List.lookup_cons, beq_eq_false_iff_ne.2 hk, ih, hk]

/-- After a value was put at a key, the only new entry is this one. -/
theorem mem_of_mem_put {k : String} {v : α} {e : String × α} (h : e ∈ t.put k v) :
    e = (k, v) ∨ e ∈ t := by
  induction t with
  | nil => exact .inl (List.mem_singleton.mp h)
  | cons f t ih =>
    obtain ⟨l, w⟩ := f
    unfold put at h
    split at h
    · rcases List.mem_cons.mp h with he | he
      · exact .inl he
      · exact .inr (List.mem_cons_of_mem _ he)
    · rcases List.mem_cons.mp h with he | he
      · exact .inr (he ▸ List.mem_cons_self)
      · rcases ih he with he | he
        · exact .inl he
        · exact .inr (List.mem_cons_of_mem _ he)

/-- After a table was put into another one, the only new entries are those of the table. -/
theorem mem_of_mem_putAll {u : Table α} {e : String × α} (h : e ∈ t.putAll u) :
    e ∈ u ∨ e ∈ t := by
  induction u generalizing t with
  | nil => exact .inr h
  | cons f u ih =>
    have hrest : e ∈ u ∨ e ∈ t.put f.1 f.2 := ih h
    rcases hrest with he | he
    · exact .inl (List.mem_cons_of_mem _ he)
    · rcases mem_of_mem_put he with rfl | he
      · exact .inl List.mem_cons_self
      · exact .inr he

/-- What is found at a key is an entry of the table. -/
theorem mem_of_get? {k : String} {v : α} (h : t.get? k = some v) : (k, v) ∈ t := by
  obtain ⟨before, after, hsplit, -⟩ := List.lookup_eq_some_iff.mp h
  rw [hsplit]
  simp

/-- Erasing a key leaves all other keys. -/
theorem mem_keys_erase {k l : String} :
    l ∈ (t.erase k).keys ↔ l ∈ t.keys ∧ l ≠ k := by
  simp only [keys, erase, List.mem_map, List.mem_filter, bne_iff_ne]
  constructor
  · rintro ⟨e, ⟨he, hne⟩, rfl⟩
    exact ⟨⟨e, he, rfl⟩, hne⟩
  · rintro ⟨⟨e, he, rfl⟩, hne⟩
    exact ⟨e, ⟨he, hne⟩, rfl⟩

/-- The values of a second table go before those of the first. -/
theorem get?_putAll {u : Table α} (hu : u.keys.Nodup) (k : String) :
    (t.putAll u).get? k = (u.get? k).or (t.get? k) := by
  induction u generalizing t with
  | nil => rfl
  | cons e u ih =>
    obtain ⟨l, w⟩ := e
    obtain ⟨hl, hu⟩ := List.nodup_cons.1 hu
    have hrest : (t.putAll ((l, w) :: u)).get? k = (get? u k).or ((t.put l w).get? k) := ih hu
    rw [hrest, get?_put]
    by_cases hk : k = l
    · have hnone : get? u k = none := by
        rw [get?_eq_none_iff, Bool.eq_false_iff, hk]
        exact fun h => hl (has_iff_mem_keys.1 h)
      rw [hnone, if_pos hk]
      simp [get?, hk]
    · rw [if_neg hk]
      simp [get?, List.lookup_cons, beq_eq_false_iff_ne.2 hk]

/-- Looking up in the part of a table that has certain keys. -/
theorem get?_filter (p : String → Bool) (k : String) :
    get? (t.filter fun e => p e.1) k = if p k then t.get? k else none := by
  induction t with
  | nil => simp [get?]
  | cons e t ih =>
    obtain ⟨l, w⟩ := e
    simp only [get?] at ih
    by_cases hk : k = l
    · subst hk
      cases hp : p k with
      | true => simp [get?, hp]
      | false => simpa [get?, hp] using ih
    · have hne : (k == l) = false := beq_eq_false_iff_ne.2 hk
      cases hp : p l with
      | true => simpa [get?, hp, List.lookup_cons, hne] using ih
      | false => simpa [get?, hp, List.lookup_cons, hne] using ih

end JavaScribe.Table
