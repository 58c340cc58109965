import JavaScribe.ValueType.Registration
import JavaScribe.Proofs.RegisteredNames

/-!
# Registrations that are undone

Removing a type takes away every alias that leads to its name, whoever gave it.  That this undoes a
registration and no more rests on what no alias does: lead to a name without a type.  A name that is
free has therefore no aliases that wait for it, and all that lead to it after the registration came
with the registration.

A registration that is refused has nothing to be undone.  Its steps come to all of the insertion or
to nothing (`RegistryBuilder.run_register`), since the checks come first.
-/

set_option autoImplicit false

namespace JavaScribe

/-! ## Steps -/

namespace RegistryBuilder

variable {s : RegistryState}

/-- The checks of several aliases, one after the other, are the check of the list. -/
theorem run_forM_requireFreeAlias (key : String) (names : List String) (s : RegistryState) :
    (names.forM fun a => require fun r => r.requireFreeAlias key a).run s =
      (require fun r => r.requireFreeAliases key names).run s := by
  induction names with
  | nil => rfl
  | cons a names ih =>
    show ((require fun r => r.requireFreeAlias key a) >>= fun _ =>
      names.forM fun a => require fun r => r.requireFreeAlias key a).run s = _
    rw [EStateM.run_bind]
    simp only [EStateM.run, require, Registry.requireFreeAliases] at ih ⊢
    cases s.registry.requireFreeAlias key a with
    | error e => rfl
    | ok => exact ih

/-- Storing aliases step by step comes to storing all of them. -/
theorem run_forM_putAlias (key : String) (names : List String) (s : RegistryState) :
    (names.forM fun a => putAlias (Text.lowercase a) key).run s =
      .ok () { s with registry := { s.registry with
        aliases := s.registry.aliases.putAll (names.map fun a => (Text.lowercase a, key)) } } := by
  induction names generalizing s with
  | nil => rfl
  | cons a names ih =>
    show (putAlias (Text.lowercase a) key >>= fun _ =>
      names.forM fun a => putAlias (Text.lowercase a) key).run s = _
    rw [EStateM.run_bind, putAlias, EStateM.run_modify]
    exact ih _

/-- Past the checks nothing can fail, and what is put in place is what is inserted. -/
theorem run_putAll (v : ValueType) (aliases : List String) (s : RegistryState) :
    (do
      putType (Text.lowercase v.name) v
      (Registry.properAliases (Text.lowercase v.name) aliases).forM fun a =>
        putAlias (Text.lowercase a) (Text.lowercase v.name)
      record (Registry.registeredRecord v) : RegistryBuilder Unit).run s =
      .ok () ⟨s.registry.insert v aliases, s.log ++ [Registry.registeredRecord v]⟩ := by
  simp only [EStateM.run_bind, putType, record, EStateM.run_modify, run_forM_putAlias]
  rfl

/-- The steps of a registration come to all of what is inserted, or to nothing. -/
theorem run_register (v : ValueType) (aliases : List String) (replace : Bool)
    (s : RegistryState) :
    (register v aliases replace).run s =
      match s.registry.register v aliases replace with
      | .ok (r, log) => .ok () ⟨r, s.log ++ log⟩
      | .error e => .error e s := by
  cases replace with
  | true => exact run_putAll v aliases s
  | false =>
    have hput := run_putAll v aliases s
    simp only [EStateM.run_bind] at hput
    simp only [register, Bool.false_eq_true, if_false, EStateM.run_bind, run_forM_requireFreeAlias]
    simp only [EStateM.run, require, Registry.register, Registry.requireFree, Bool.false_eq_true,
      if_false] at hput ⊢
    cases s.registry.requireFreeName v.name with
    | error e => rfl
    | ok =>
      cases hfree : s.registry.requireFreeAliases (Text.lowercase v.name)
        (Registry.properAliases (Text.lowercase v.name) aliases) with
      | error e => simp only [hfree]
      | ok =>
        simp only [hfree]
        exact hput

end RegistryBuilder

/-! ## Values that are taken out -/

namespace Table

variable {α : Type} {t : Table α}

/-- A value that is taken out again leaves nothing behind, if it was put where no other value that
stays was. -/
theorem filter_put {p : α → Bool} {k : String} {v : α} (hv : p v = false)
    (hk : ∀ e ∈ t, e.1 = k → p e.2 = false) :
    ((t.put k v).filter fun e => p e.2) = t.filter fun e => p e.2 := by
  induction t with
  | nil => simp [put, hv]
  | cons e t ih =>
    obtain ⟨l, w⟩ := e
    rw [put]
    split
    · next h =>
      have hw : p w = false := hk (l, w) List.mem_cons_self h
      rw [List.filter_cons_of_neg (by simp [hv]), List.filter_cons_of_neg (by simp [hw])]
    · have hrest := ih fun e he => hk e (List.mem_cons_of_mem _ he)
      rw [List.filter_cons, List.filter_cons, hrest]

/-- Entries that are put in and left out again make no difference, if they replace none that is
kept. -/
theorem filter_putAll {p : α → Bool} {u : Table α} (hu : ∀ e ∈ u, p e.2 = false)
    (ht : ∀ e ∈ u, ∀ d ∈ t, d.1 = e.1 → p d.2 = false) :
    ((t.putAll u).filter fun e => p e.2) = t.filter fun e => p e.2 := by
  induction u generalizing t with
  | nil => rfl
  | cons e u ih =>
    have hstep : t.putAll (e :: u) = (t.put e.1 e.2).putAll u := rfl
    have he : p e.2 = false := hu e List.mem_cons_self
    rw [hstep, ih, filter_put he (ht e List.mem_cons_self)]
    · exact fun d hd => hu d (List.mem_cons_of_mem e hd)
    · -- a key may be put more than once; then it has the value that was put first
      intro d hd c hc hkey
      rcases mem_of_mem_put hc with rfl | hc
      · exact he
      · exact ht d (List.mem_cons_of_mem e hd) c hc hkey

/-- Erasing a key that is not there changes nothing. -/
theorem erase_of_not_mem {k : String} (h : k ∉ t.keys) : t.erase k = t := by
  refine List.filter_eq_self.mpr fun e he => ?_
  rw [bne_iff_ne]
  rintro rfl
  exact h (List.mem_map_of_mem he)

/-- Erasing a key that was just added undoes the addition. -/
theorem erase_put {k : String} (h : k ∉ t.keys) (v : α) : (t.put k v).erase k = t := by
  rw [put_of_not_mem h, erase, List.filter_append]
  have hkept : t.filter (fun e => e.1 != k) = t := erase_of_not_mem h
  rw [hkept, List.filter_cons_of_neg (by simp), List.filter_nil, List.append_nil]

end Table

namespace Registry

variable {r : Registry} {v : ValueType} {aliases : List String}

/-- Where every alias leads to a registered name, none leads to a name that is free. -/
theorem Sound.target_ne_of_free (h : r.Sound) {key : String} (hkey : r.types.has key = false)
    {a : String × String} (ha : a ∈ r.aliases) : a.2 ≠ key := by
  rintro rfl
  rw [Table.has_iff_mem_keys.mpr (h.target a ha)] at hkey
  cases hkey

/-- An alias that is free is no alias yet: it could only lead to the name that is registered, and
that name is free itself. -/
theorem Sound.alias_ne_of_free (h : r.Sound) (hkeyed : r.AliasesKeyed)
    (hfree : r.requireFree v aliases = .ok ()) {a : String}
    (ha : a ∈ properAliases (Text.lowercase v.name) aliases) {d : String × String}
    (hd : d ∈ r.aliases) : d.1 ≠ Text.lowercase a := by
  obtain ⟨hname, haliases⟩ := requireFree_eq_ok_iff.mp hfree
  obtain ⟨htype, -⟩ := requireFreeName_eq_ok_iff.mp hname
  obtain ⟨-, htarget⟩ := requireFreeAlias_eq_ok_iff.mp (haliases a ha)
  intro hkey
  have hget : r.aliases.get? (Text.lowercase a) = some d.2 := by
    rw [← hkey]
    exact (Table.get?_eq_some_iff hkeyed.nodup).mpr hd
  exact h.target_ne_of_free htype hd (htarget d.2 hget)

/-- A type that took nothing but what was free is removed without a trace, whatever the case of the
letters that its name is then given in. -/
theorem Sound.unregister_insert (h : r.Sound) (hkeyed : r.AliasesKeyed)
    (hfree : r.requireFree v aliases = .ok ()) {name : String}
    (hname : Text.lowercase name = Text.lowercase v.name) :
    (r.insert v aliases).unregister name = r := by
  have htype : r.types.has (Text.lowercase v.name) = false :=
    (requireFreeName_eq_ok_iff.mp (requireFree_eq_ok_iff.mp hfree).1).1
  have htypes : (r.insert v aliases).types.erase (Text.lowercase v.name) = r.types := by
    apply Table.erase_put
    intro hmem
    rw [Table.has_iff_mem_keys.mpr hmem] at htype
    cases htype
  have haliases : (r.insert v aliases).aliases.filter (fun a => a.2 != Text.lowercase v.name) =
      r.aliases := by
    -- the new aliases lead to the name and are all taken out, those before do not and all stay
    refine (Table.filter_putAll (p := (· != Text.lowercase v.name)) ?_ ?_).trans ?_
    · intro e he
      obtain ⟨a, -, rfl⟩ := List.mem_map.mp he
      exact bne_self_eq_false _
    · intro e he d hd hkey
      obtain ⟨a, ha, rfl⟩ := List.mem_map.mp he
      exact absurd hkey (h.alias_ne_of_free hkeyed hfree ha hd)
    · refine List.filter_eq_self.mpr fun a ha => ?_
      exact bne_iff_ne.mpr (h.target_ne_of_free htype ha)
  rw [Registry.unregister, hname, htypes, haliases]

/-- The aliases of the primitive types are as keys should be. -/
theorem aliasesKeyed_primitive : primitive.AliasesKeyed := by
  rw [primitive_eq_performAll]
  exact aliasesKeyed_performAll _

/-- Registering and removing undo each other, and a refused registration leaves no trace.  Take any
registry that is reached from no types or from the primitive ones by any calls, accepted and refused
ones, those that replace included.  If registering a type without replacing anything fails, types,
their order and aliases are what they were, and nothing is logged.  If it succeeds, removing the
type again, with its name in any case of letters, gives back the registry as it was. -/
theorem unregister_register (start : Registry) (hstart : start = empty ∨ start = primitive)
    (commands : List Command) (v : ValueType) (aliases : List String) :
    let r := start.performAll commands
    let registered := (RegistryBuilder.register v aliases false).run ⟨r, []⟩
    (∀ e s, registered = .error e s → s.registry = r ∧ s.log = []) ∧
      ∀ s, registered = .ok () s → ∀ name, Text.lowercase name = Text.lowercase v.name →
        s.registry.unregister name = r := by
  intro r registered
  have hsound : r.Sound := by
    rcases hstart with rfl | rfl
    · exact sound_empty.performAll commands
    · exact sound_primitive.performAll commands
  have hkeyed : r.AliasesKeyed := by
    rcases hstart with rfl | rfl
    · exact aliasesKeyed_performAll commands
    · exact aliasesKeyed_primitive.performAll commands
  have hrun : registered = _ := RegistryBuilder.run_register v aliases false ⟨r, []⟩
  constructor
  · intro e s hs
    rw [hrun] at hs
    split at hs
    · cases hs
    · cases hs
      exact ⟨rfl, rfl⟩
  · intro s hs name hname
    rw [hrun] at hs
    split at hs
    · next hregister =>
      cases hs
      obtain ⟨rfl, hfree⟩ := eq_insert_of_register hregister
      exact hsound.unregister_insert hkeyed (hfree rfl) hname
    · cases hs

/-- A registry in which a replacing registration has taken the name of an alias and given another
alias a new target.  A type that takes an alias of its own name, a repeated one and a new one is
registered and removed; one that takes an alias of another type is refused after its name has been
found free. -/
theorem unregister_register_decimal :
    let r := primitive.performAll [.register ⟨"Bool", "Bool", "Boolean", "false"⟩ ["integer"] true]
    let decimal : ValueType := ⟨"Decimal", "Decimal", "BigDecimal", "null"⟩
    let register (aliases : List String) :=
      (RegistryBuilder.register decimal aliases false).run ⟨r, []⟩
    (∃ s, register ["decimal", "Big", "big"] = .ok () s ∧ s.registry ≠ r ∧
        s.registry.unregister "DECIMAL" = r) ∧
      ∃ e s, register ["Big", "Integer"] = .error e s ∧ s.registry = r ∧ s.log = [] := by
  intro r decimal register
  constructor
  · obtain ⟨-, hundone⟩ := unregister_register primitive (.inr rfl)
      [.register ⟨"Bool", "Bool", "Boolean", "false"⟩ ["integer"] true] decimal
      ["decimal", "Big", "big"]
    have haccepted : (match register ["decimal", "Big", "big"] with
        | .ok _ s => decide (s.registry ≠ r)
        | .error _ _ => false) = true := by decide +kernel
    cases hrun : register ["decimal", "Big", "big"] with
    | error e s => simp [hrun] at haccepted
    | ok u s =>
      rw [hrun] at haccepted
      have hcase : Text.lowercase "DECIMAL" = Text.lowercase decimal.name := by decide +kernel
      exact ⟨s, rfl, of_decide_eq_true haccepted, hundone s hrun "DECIMAL" hcase⟩
  · obtain ⟨hatomic, -⟩ := unregister_register primitive (.inr rfl)
      [.register ⟨"Bool", "Bool", "Boolean", "false"⟩ ["integer"] true] decimal ["Big", "Integer"]
    have hrefused : (match register ["Big", "Integer"] with
        | .ok _ _ => false
        | .error _ _ => true) = true := by decide +kernel
    cases hrun : register ["Big", "Integer"] with
    | ok u s => simp [hrun] at hrefused
    | error e s => exact ⟨e, s, rfl, hatomic e s hrun⟩

end Registry

end JavaScribe
