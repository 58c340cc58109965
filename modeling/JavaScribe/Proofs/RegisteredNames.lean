import JavaScribe.Proofs.AliasLookup

/-!
# Names of registered types

Types are kept under their names in lower case, so that no two names differ only in case, and every
alias leads to a name under which there is a type (`Registry.Sound`).  A registration that replaces
may give an alias another target, put a type in the place of another, or take a name that is an
alias; and a type that is removed takes the aliases that lead to it along.  None of this leaves an
alias without its target, so a look-up fails for one reason only: what is asked for is neither a
name nor an alias (`Registry.get_ok_or_unknown`).
-/

set_option autoImplicit false

namespace JavaScribe

namespace Registry

/-- Whether types are under their own names, each name once, and aliases lead to names of types. -/
structure Sound (r : Registry) : Prop where
  nodup : r.types.keys.Nodup
  own : ∀ t ∈ r.types, t.1 = Text.lowercase t.2.name
  target : ∀ a ∈ r.aliases, a.2 ∈ r.types.keys

variable {r : Registry}

/-- Storing a type keeps a registry sound. -/
theorem Sound.insert (h : r.Sound) (v : ValueType) (aliases : List String) :
    (r.insert v aliases).Sound where
  nodup := Table.nodup_keys_put h.nodup _ v
  own t ht := by
    rcases Table.mem_of_mem_put ht with rfl | ht
    · rfl
    · exact h.own t ht
  target a ha := by
    -- new aliases lead to the new name, and the targets of the others are still there
    rcases Table.mem_of_mem_putAll ha with ha | ha
    · obtain ⟨given, -, rfl⟩ := List.mem_map.mp ha
      exact Table.mem_keys_put.mpr (.inl rfl)
    · exact Table.mem_keys_put.mpr (.inr (h.target a ha))

/-- Removing a type keeps a registry sound. -/
theorem Sound.unregister (h : r.Sound) (name : String) : (r.unregister name).Sound where
  nodup := h.nodup.sublist (typeKeys_unregister_sublist r name)
  own t ht := h.own t (List.mem_of_mem_filter ht)
  target a ha := by
    obtain ⟨hmem, hne⟩ := List.mem_filter.mp ha
    have hkey : a.2 ∈ r.types.keys := h.target a hmem
    exact Table.mem_keys_erase.mpr ⟨hkey, by simpa using hne⟩

/-- Every command keeps a registry sound. -/
theorem Sound.perform (h : r.Sound) (c : Command) : (r.perform c).Sound := by
  rcases perform_cases r c with hc | ⟨v, aliases, hc, -⟩ | ⟨name, hc⟩
  · rw [hc]
    exact h
  · rw [hc]
    exact h.insert v aliases
  · rw [hc]
    exact h.unregister name

/-- Any commands keep a registry sound. -/
theorem Sound.performAll (h : r.Sound) (commands : List Command) : (r.performAll commands).Sound :=
  performAll_induction h fun _ c _ hr => hr.perform c

/-- The empty registry is sound. -/
theorem sound_empty : empty.Sound := ⟨List.nodup_nil, nofun, nofun⟩

/-- The registry of primitive types comes from registering them in turn, which takes nothing that
is not free. -/
theorem primitive_eq_performAll :
    primitive = empty.performAll (primitiveTypes.map fun p => .register p.1 p.2 false) := by
  decide +kernel

/-- The registry of the primitive types is sound. -/
theorem sound_primitive : primitive.Sound := by
  rw [primitive_eq_performAll]
  exact sound_empty.performAll _

/-- The names of a sound registry in lower case are its keys. -/
theorem Sound.map_lowercase_names (h : r.Sound) : r.names.map Text.lowercase = r.types.keys := by
  simp only [names, Table.values, Table.keys, List.map_map]
  refine List.map_congr_left fun t ht => ?_
  exact (h.own t ht).symm

/-- A type that is found at a key is one of the types. -/
theorem mem_values_of_get? {k : String} {v : ValueType} (h : r.types.get? k = some v) :
    v ∈ r.types.values :=
  List.mem_map.mpr ⟨(k, v), Table.mem_of_get? h, rfl⟩

/-- The target of an alias is found. -/
theorem Sound.exists_of_alias (h : r.Sound) {k target : String}
    (ha : r.aliases.get? k = some target) : ∃ v, r.types.get? target = some v := by
  have hkey : target ∈ r.types.keys := h.target _ (Table.mem_of_get? ha)
  exact (Table.has_iff ..).mp (Table.has_iff_mem_keys.mpr hkey)

/-- A look-up finds what the registry contains, and knows nothing else. -/
theorem Sound.get_cases (h : r.Sound) (name : String) :
    (r.contains name = true ∧ ∃ v ∈ r.types.values, r.get name = .ok v) ∨
      (r.contains name = false ∧ r.get name = .error (.unknown name r.names)) := by
  have htypes := Table.has_iff r.types (Text.lowercase name)
  have haliases := Table.has_iff r.aliases (Text.lowercase name)
  cases htype : r.types.get? (Text.lowercase name) with
  | some v =>
    left
    have hhas : r.types.has (Text.lowercase name) = true := htypes.mpr ⟨v, htype⟩
    exact ⟨by simp [contains, hhas], v, mem_values_of_get? htype, by simp [get, htype]⟩
  | none =>
    have hnot : r.types.has (Text.lowercase name) = false := Table.get?_eq_none_iff.mp htype
    cases halias : r.aliases.get? (Text.lowercase name) with
    | some target =>
      left
      -- no alias of a sound registry leads to a name that is gone
      obtain ⟨v, hv⟩ := h.exists_of_alias halias
      have hhas : r.aliases.has (Text.lowercase name) = true := haliases.mpr ⟨target, halias⟩
      exact ⟨by simp [contains, hhas], v, mem_values_of_get? hv, by simp [get, htype, halias, hv]⟩
    | none =>
      right
      have hnone : r.aliases.has (Text.lowercase name) = false := Table.get?_eq_none_iff.mp halias
      exact ⟨by simp [contains, hnot, hnone], by simp [get, htype, halias]⟩

/-- Look-ups never come to nothing half-way.  After any calls, accepted and refused ones, that start
from no types or from the primitive ones, every alias leads to a registered name, every type is
under its own name in lower case, and no two names differ only in case.  A look-up finds a
registered type just when the registry contains what is asked for, and otherwise the name is
unknown. -/
theorem get_ok_or_unknown (start : Registry) (hstart : start = empty ∨ start = primitive)
    (commands : List Command) :
    let r := start.performAll commands
    (∀ a ∈ r.aliases, r.types.has a.2 = true) ∧
      (∀ t ∈ r.types, t.1 = Text.lowercase t.2.name) ∧
      (r.names.map Text.lowercase).Nodup ∧
      ∀ name, (r.contains name = true ∧ ∃ v ∈ r.types.values, r.get name = .ok v) ∨
        (r.contains name = false ∧ r.get name = .error (.unknown name r.names)) := by
  intro r
  have hsound : r.Sound := by
    rcases hstart with rfl | rfl
    · exact sound_empty.performAll commands
    · exact sound_primitive.performAll commands
  refine ⟨?_, hsound.own, ?_, hsound.get_cases⟩
  · intro a ha
    exact Table.has_iff_mem_keys.mpr (hsound.target a ha)
  · rw [hsound.map_lowercase_names]
    exact hsound.nodup

/-- An alias that is the name of another type comes into its own when that type is removed; the
aliases of the removed type are gone, but for one that has been given another target. -/
theorem get_ok_or_unknown_decimal :
    let decimal : ValueType := ⟨"decimal", "Decimal", "BigDecimal", "null"⟩
    let r := primitive.performAll [.register ⟨"Int", "Int", "Integer", "1"⟩ ["whole"] true,
      .register decimal ["INT", "Integer"] true, .register decimal [] false, .unregister "int"]
    r.get "int" = .ok decimal ∧ (∃ v ∈ r.types.values, r.get "integer" = .ok v) ∧
      r.get "whole" = .error (.unknown "whole" r.names) := by
  intro decimal r
  obtain ⟨-, -, -, hget⟩ := get_ok_or_unknown primitive (.inr rfl)
    [.register ⟨"Int", "Int", "Integer", "1"⟩ ["whole"] true,
      .register decimal ["INT", "Integer"] true, .register decimal [] false, .unregister "int"]
  refine ⟨by decide +kernel, ?_, ?_⟩
  · have hcontains : r.contains "integer" = true := by decide +kernel
    rcases hget "integer" with ⟨-, hfound⟩ | ⟨hnot, -⟩
    · exact hfound
    · rw [hcontains] at hnot
      cases hnot
  · have hcontains : r.contains "whole" = false := by decide +kernel
    rcases hget "whole" with ⟨hyes, -⟩ | ⟨-, hunknown⟩
    · rw [hcontains] at hyes
      cases hyes
    · exact hunknown

end Registry

end JavaScribe
