import JavaScribe.Json.Entries
import JavaScribe.Json.Parser
import JavaScribe.Proofs.Outcomes
import JavaScribe.Proofs.TableKeys

/-!
# Keys of objects

Looking up a text among entries is looking up a key of an object, also after further entries have
been put on top, and an object that is read from a text has each of its keys once.
-/

set_option autoImplicit false

namespace JavaScribe

namespace Json

/-- A value serves as a text for a key only if it is the text. -/
theorem keyValue_eq_string_iff {j : Json} {k : String} : j.keyValue = string k ↔ j = string k := by
  cases j with
  | real x => cases h : x.integer? <;> simp [keyValue, h]
  | _ => simp [keyValue]

namespace Entries

/-- The first entry of a key decides. -/
theorem get?_cons (j v : Json) (es : Entries) (k : String) :
    get? ((j, v) :: es) k = if j = string k then some v else es.get? k := by
  by_cases h : j = string k
  · simp [get?, h]
  · have hne : (j == string k) = false := beq_eq_false_iff_ne.2 h
    simp [get?, hne, h]

/-- After a value was put at a text it is found there, and at other texts nothing has changed. -/
theorem get?_put (es : Entries) (k l : String) (v : Json) :
    (es.put (string k) v).get? l = if l = k then some v else es.get? l := by
  induction es with
  | nil =>
    rw [put, get?_cons]
    simp [eq_comm]
  | cons e es ih =>
    obtain ⟨j, w⟩ := e
    have hkey : (string k).keyValue = string k := rfl
    simp only [put, hkey, keyValue_eq_string_iff]
    by_cases hj : j = string k
    · subst hj
      rw [if_pos rfl, get?_cons, get?_cons]
      by_cases hl : l = k
      · simp [hl]
      · simp [hl, Ne.symm hl]
    · rw [if_neg hj, get?_cons, get?_cons, ih]
      by_cases hl : l = k
      · subst hl
        simp [hj]
      · simp [hl]

/-- After fields were put into entries, the fields decide, and else the entries. -/
theorem get?_putAll_ofFields (es : Entries) {fs : Fields} (hfs : Table.keys fs |>.Nodup)
    (k : String) : (es.putAll (ofFields fs)).get? k = (Table.get? fs k).or (es.get? k) := by
  induction fs generalizing es with
  | nil => rfl
  | cons f fs ih =>
    obtain ⟨l, w⟩ := f
    obtain ⟨hl, hfs⟩ := List.nodup_cons.mp hfs
    have hrest : (es.putAll (ofFields ((l, w) :: fs))).get? k =
        (Table.get? fs k).or ((es.put (string l) w).get? k) := ih _ hfs
    rw [hrest, get?_put]
    by_cases hk : k = l
    · have hnone : Table.get? fs k = none := by
        rw [Table.get?_eq_none_iff, Bool.eq_false_iff, hk]
        exact fun h => hl (Table.has_iff_mem_keys.mp h)
      rw [hnone, if_pos hk]
      simp [Table.get?, hk]
    · rw [if_neg hk]
      simp [Table.get?, List.lookup_cons, beq_eq_false_iff_ne.2 hk]

/-- Fields that entries can be read as make up the entries again. -/
theorem ofFields_of_fields? {es : Entries} {fs : Fields} (h : es.fields? = some fs) :
    ofFields fs = es := by
  induction es generalizing fs with
  | nil =>
    cases h
    rfl
  | cons e es ih =>
    obtain ⟨j, v⟩ := e
    cases j with
    | string k =>
      simp only [fields?, List.mapM_cons, Option.bind_eq_bind, Option.bind_some,
        Option.pure_def, Option.bind_eq_some_iff, Option.some.injEq] at h
      obtain ⟨rest, hrest, rfl⟩ := h
      have hes : ofFields rest = es := ih hrest
      rw [← hes]
      rfl
    | _ => simp [fields?] at h

end Entries

/-- No object is read as a value without parts. -/
theorem readScalar_ne_object {cs rest : List Char} {fields : Fields} :
    readScalar cs ≠ .ok (object fields, rest) := by
  have hmagnitude : ∀ negative cs, readMagnitude negative cs ≠ .ok (object fields, rest) := by
    intro negative cs h
    unfold readMagnitude at h
    split at h
    · cases h
    · dsimp only at h
      split at h
      · split at h <;> cases h
      · cases h
  intro h
  unfold readScalar at h
  split at h
  · rename_i r hword
    obtain ⟨w, hw, hr⟩ := List.exists_of_findSome?_eq_some hword
    have hvalue : w.2 ≠ object fields := by
      simp only [wordValues, List.mem_cons, List.not_mem_nil, or_false] at hw
      rcases hw with rfl | rfl | rfl | rfl | rfl | rfl <;> simp
    split at hr
    · obtain rfl := Option.some.inj hr
      exact hvalue (Prod.mk.inj (Except.ok.inj h)).1
    · cases hr
  · split at h
    · exact hmagnitude _ _ h
    · exact hmagnitude _ _ h

/-- An object that was read has each of its keys once. -/
theorem nodup_keys_of_readValue {nesting fuel : Nat} {cs rest : List Char} {fields : Fields}
    (h : readValue nesting fuel cs = .ok (object fields, rest)) : Table.keys fields |>.Nodup := by
  cases fuel with
  | zero => simp [readValue] at h
  | succ fuel =>
    unfold readValue at h
    split at h
    · cases h
    · cases h
    · split at h
      · cases h
      · obtain ⟨r, -, hr⟩ := except_bind_eq_ok_iff.mp h
        cases hr
    · split at h
      · obtain rfl := object.inj (Prod.mk.inj (Except.ok.inj h)).1
        exact List.nodup_nil
      · obtain ⟨r, -, hr⟩ := except_bind_eq_ok_iff.mp h
        obtain rfl := object.inj (Prod.mk.inj (Except.ok.inj hr)).1
        exact Table.nodup_keys_putAll (t := []) List.nodup_nil _
    · obtain ⟨r, -, hr⟩ := except_bind_eq_ok_iff.mp h
      cases hr
    · exact absurd h readScalar_ne_object

/-- In an object that is read no key is there twice. -/
theorem nodup_keys_of_parseWithin {nesting : Nat} {s : String} {fields : Fields}
    (h : parseWithin nesting s = .ok (object fields)) : Table.keys fields |>.Nodup := by
  obtain ⟨⟨value, rest⟩, hvalue, hrest⟩ := except_bind_eq_ok_iff.mp h
  dsimp only at hrest
  split at hrest
  · obtain rfl := Except.ok.inj hrest
    exact nodup_keys_of_readValue hvalue
  · cases hrest

end Json

end JavaScribe
