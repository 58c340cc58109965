import JavaScribe.ValueType.Registry
import JavaScribe.Proofs.LowerCase
import JavaScribe.Proofs.TableKeys

/-!
# Looking value types up by their aliases

A name goes before an alias when a value type is looked up, and a registration that replaces is
not checked against what is there.  What an alias leads to, after any calls, is therefore the type
whose name it is, if there is one, and else the type it was given to (`Registry.get_alias`).  Where
nothing is replaced, no name is an alias and each alias leads to its own type.
-/

set_option autoImplicit false

namespace JavaScribe

namespace Registry

/-- A call that changes a registry. -/
inductive Command where
  | register (v : ValueType) (aliases : List String) (replace : Bool)
  | unregister (name : String)

/-- Whether the call may put a value type in the place of another. -/
def Command.replaces : Command → Bool
  | .register _ _ replace => replace
  | .unregister _ => false

/-- Performs a call; one that is refused leaves the registry as it is. -/
def perform (r : Registry) : Command → Registry
  | .register v aliases replace =>
    match r.register v aliases replace with
    | .ok (s, _) => s
    | .error _ => r
  | .unregister name => r.unregister name

/-- Performs calls one after another. -/
def performAll (r : Registry) (commands : List Command) : Registry := commands.foldl perform r

variable {r s : Registry} {v : ValueType} {aliases : List String} {a name key : String}

/-- The proper aliases are those that differ from the name, without regard to case. -/
theorem mem_properAliases :
    a ∈ properAliases key aliases ↔ a ∈ aliases ∧ Text.lowercase a ≠ key := by
  simp only [properAliases, List.mem_filter, bne_iff_ne]

/-- Storing a type puts it at its name and nowhere else. -/
theorem types_insert (k : String) :
    (r.insert v aliases).types.get? k =
      if k = Text.lowercase v.name then some v else r.types.get? k :=
  Table.get?_put ..

/-- Storing a type lets its proper aliases lead to its name and changes no others. -/
theorem aliases_insert (k : String) :
    (r.insert v aliases).aliases.get? k =
      if k ∈ (properAliases (Text.lowercase v.name) aliases).map Text.lowercase
      then some (Text.lowercase v.name) else r.aliases.get? k :=
  Table.get?_putAll_map ..

/-- A name is free if neither a type nor an alias has it. -/
theorem requireFreeName_eq_ok_iff : r.requireFreeName name = .ok () ↔
    r.types.has (Text.lowercase name) = false ∧ r.aliases.has (Text.lowercase name) = false := by
  rw [← @Table.get?_eq_none_iff _ r.aliases]
  simp only [requireFreeName]
  cases r.types.has (Text.lowercase name) <;> cases r.aliases.get? (Text.lowercase name) <;> simp

/-- An alias is free if no type has it as a name and it leads nowhere else. -/
theorem requireFreeAlias_eq_ok_iff : r.requireFreeAlias key a = .ok () ↔
    r.types.has (Text.lowercase a) = false ∧
      ∀ target, r.aliases.get? (Text.lowercase a) = some target → target = key := by
  simp only [requireFreeAlias]
  cases r.types.has (Text.lowercase a) <;> cases r.aliases.get? (Text.lowercase a) <;> simp

/-- Aliases are free if each of them is. -/
theorem requireFreeAliases_eq_ok_iff : r.requireFreeAliases key aliases = .ok () ↔
    ∀ a ∈ aliases, r.requireFreeAlias key a = .ok () := by
  induction aliases with
  | nil => simp [requireFreeAliases]
  | cons a aliases ih =>
    rw [List.forall_mem_cons, ← ih, requireFreeAliases]
    cases r.requireFreeAlias key a <;> simp

/-- A type may be stored if its name and all its proper aliases are free. -/
theorem requireFree_eq_ok_iff : r.requireFree v aliases = .ok () ↔
    r.requireFreeName v.name = .ok () ∧
      ∀ a ∈ properAliases (Text.lowercase v.name) aliases,
        r.requireFreeAlias (Text.lowercase v.name) a = .ok () := by
  rw [← requireFreeAliases_eq_ok_iff, requireFree]
  cases r.requireFreeName v.name <;> simp

/-- A registration that may replace is never refused. -/
theorem register_replacing (r : Registry) (v : ValueType) (aliases : List String) :
    r.register v aliases true = .ok (r.insert v aliases, [registeredRecord v]) :=
  rfl

/-- A registration that succeeds stores the type; without leave to replace, all names were free. -/
theorem eq_insert_of_register {replace : Bool} {log : Log}
    (h : r.register v aliases replace = .ok (s, log)) :
    s = r.insert v aliases ∧ (replace = false → r.requireFree v aliases = .ok ()) := by
  cases replace with
  | true =>
    rw [register_replacing, Except.ok.injEq, Prod.mk.injEq] at h
    exact ⟨h.1.symm, nofun⟩
  | false =>
    cases hfree : r.requireFree v aliases with
    | error e => simp [register, hfree] at h
    | ok =>
      simp only [register, Bool.false_eq_true, if_false, hfree, Except.ok.injEq,
        Prod.mk.injEq] at h
      exact ⟨h.1.symm, fun _ => rfl⟩

/-- What a call can do. -/
theorem perform_cases (r : Registry) (c : Command) :
    r.perform c = r ∨
      (∃ v aliases, r.perform c = r.insert v aliases ∧
        (c.replaces = false → r.requireFree v aliases = .ok ())) ∨
      ∃ name, r.perform c = r.unregister name := by
  cases c with
  | unregister name => exact .inr (.inr ⟨name, rfl⟩)
  | register v aliases replace =>
    cases h : r.register v aliases replace with
    | error e => exact .inl (by simp [perform, h])
    | ok result =>
      obtain ⟨hs, hfree⟩ := eq_insert_of_register h
      exact .inr (.inl ⟨v, aliases, by simp [perform, h, hs], hfree⟩)

/-- What holds at first and is kept by every command holds after all of them. -/
theorem performAll_induction {P : Registry → Prop} {commands : List Command} (h : P r)
    (hstep : ∀ r, ∀ c ∈ commands, P r → P (r.perform c)) : P (r.performAll commands) :=
  List.foldlRecOn commands perform h fun r hr c hc => hstep r c hc hr

/-- The aliases are in lower case, each of them once. -/
structure AliasesKeyed (r : Registry) : Prop where
  nodup : r.aliases.keys.Nodup
  low : ∀ a ∈ r.aliases.keys, Text.lowercase a = a

/-- No name is an alias. -/
def NamesApart (r : Registry) : Prop := ∀ k ∈ r.types.keys, k ∉ r.aliases.keys

/-- The aliases after a type was stored are those before and its proper ones. -/
theorem mem_aliasKeys_insert {k : String} : k ∈ (r.insert v aliases).aliases.keys ↔
    (∃ a ∈ properAliases (Text.lowercase v.name) aliases, Text.lowercase a = k) ∨
      k ∈ r.aliases.keys := by
  rw [insert, Table.mem_keys_putAll]
  simp only [Table.keys, List.map_map, List.mem_map, Function.comp_apply]

/-- Storing a type keeps the aliases as keys should be. -/
theorem AliasesKeyed.insert (h : r.AliasesKeyed) (v : ValueType) (aliases : List String) :
    (r.insert v aliases).AliasesKeyed := by
  refine ⟨Table.nodup_keys_putAll h.nodup _, fun k hk => ?_⟩
  obtain ⟨a, -, rfl⟩ | hk := mem_aliasKeys_insert.1 hk
  · exact Text.lowercase_lowercase a
  · exact h.low k hk

/-- Removing a type removes aliases and adds none. -/
theorem aliasKeys_unregister_sublist (r : Registry) (name : String) :
    (r.unregister name).aliases.keys.Sublist r.aliases.keys :=
  List.filter_sublist.map _

/-- Removing a type removes names and adds none. -/
theorem typeKeys_unregister_sublist (r : Registry) (name : String) :
    (r.unregister name).types.keys.Sublist r.types.keys :=
  List.filter_sublist.map _

/-- Removing a type keeps the aliases as keys should be. -/
theorem AliasesKeyed.unregister (h : r.AliasesKeyed) (name : String) :
    (r.unregister name).AliasesKeyed where
  nodup := h.nodup.sublist (aliasKeys_unregister_sublist r name)
  low a ha := h.low a ((aliasKeys_unregister_sublist r name).subset ha)

/-- Every command keeps the aliases as keys should be. -/
theorem AliasesKeyed.perform (h : r.AliasesKeyed) (c : Command) : (r.perform c).AliasesKeyed := by
  obtain hc | ⟨v, aliases, hc, -⟩ | ⟨name, hc⟩ := perform_cases r c
  · rwa [hc]
  · rw [hc]
    exact h.insert v aliases
  · rw [hc]
    exact h.unregister name

/-- Any commands keep the aliases as keys should be. -/
theorem AliasesKeyed.performAll (h : r.AliasesKeyed) (commands : List Command) :
    (r.performAll commands).AliasesKeyed :=
  performAll_induction h fun _ c _ hr => hr.perform c

/-- A registry without aliases has them as keys should be. -/
theorem aliasesKeyed_empty : empty.AliasesKeyed := ⟨List.nodup_nil, nofun⟩

/-- Whatever is done to the empty registry, its aliases are as keys should be. -/
theorem aliasesKeyed_performAll (commands : List Command) :
    (empty.performAll commands).AliasesKeyed := aliasesKeyed_empty.performAll commands

/-- Storing a type whose names are free keeps names and aliases apart. -/
theorem NamesApart.insert (h : r.NamesApart) (hfree : r.requireFree v aliases = .ok ()) :
    (r.insert v aliases).NamesApart := by
  obtain ⟨hname, haliases⟩ := requireFree_eq_ok_iff.1 hfree
  obtain ⟨-, hname⟩ := requireFreeName_eq_ok_iff.1 hname
  intro k hk hka
  obtain ⟨a, ha, rfl⟩ | hka := mem_aliasKeys_insert.1 hka
  · -- a new alias is neither the new name nor an old one
    obtain hk | hk := Table.mem_keys_put.1 hk
    · exact (mem_properAliases.1 ha).2 hk
    · obtain ⟨htype, -⟩ := requireFreeAlias_eq_ok_iff.1 (haliases a ha)
      rw [Table.has_iff_mem_keys.2 hk] at htype
      cases htype
  · obtain rfl | hk := Table.mem_keys_put.1 hk
    · rw [Table.has_iff_mem_keys.2 hka] at hname
      cases hname
    · exact h k hk hka

/-- Removing a type keeps names and aliases apart. -/
theorem NamesApart.unregister (h : r.NamesApart) (name : String) :
    (r.unregister name).NamesApart := by
  intro k hk hka
  have hk := (typeKeys_unregister_sublist r name).subset hk
  have hka := (aliasKeys_unregister_sublist r name).subset hka
  exact h k hk hka

/-- As long as nothing is replaced, no alias is the name of a type. -/
theorem namesApart_performAll {commands : List Command}
    (h : ∀ c ∈ commands, c.replaces = false) : (empty.performAll commands).NamesApart := by
  refine performAll_induction nofun fun r c hmem hr => ?_
  obtain hc | ⟨v, aliases, hc, hfree⟩ | ⟨name, hc⟩ := perform_cases r c
  · rwa [hc]
  · rw [hc]
    exact hr.insert (hfree (h c hmem))
  · rw [hc]
    exact hr.unregister name

/-- The aliases that are listed for a name are those that lead to it. -/
theorem AliasesKeyed.mem_aliasesOf_iff (h : r.AliasesKeyed) :
    a ∈ r.aliasesOf name ↔ r.aliases.get? a = some (Text.lowercase name) := by
  rw [Table.get?_eq_some_iff h.nodup]
  simp [aliasesOf]

/-- A name leads to its type, whatever aliases there are. -/
theorem get_eq_of_name (h : r.types.get? (Text.lowercase name) = some v) :
    r.get name = .ok v := by
  simp [get, h]

/-- An alias leads to the type that is called so, if there is one, and else to its own. -/
theorem get_eq_of_alias (ha : r.aliases.get? (Text.lowercase a) = some key)
    (hv : r.types.get? key = some v) :
    r.get a = .ok ((r.types.get? (Text.lowercase a)).getD v) := by
  cases h : r.types.get? (Text.lowercase a) with
  | some w => exact get_eq_of_name h
  | none => simp [get, h, ha, hv]

/-- An alias that was just stored leads to its type, unless it is the name of another one. -/
theorem get_insert_alias (ha : a ∈ aliases) : (r.insert v aliases).get a =
    .ok (((r.insert v aliases).types.get? (Text.lowercase a)).getD v) := by
  have hself : (r.insert v aliases).types.get? (Text.lowercase v.name) = some v := by
    rw [types_insert, if_pos rfl]
  by_cases hname : Text.lowercase a = Text.lowercase v.name
  · rw [hname, hself]
    exact get_eq_of_name (hname ▸ hself)
  · refine get_eq_of_alias ?_ hself
    have hproper := mem_properAliases.2 ⟨ha, hname⟩
    rw [aliases_insert, if_pos (List.mem_map_of_mem hproper)]

/-- An alias that was free leads to the type that it was stored with. -/
theorem get_insert_alias_of_free (hfree : r.requireFree v aliases = .ok ()) (ha : a ∈ aliases) :
    (r.insert v aliases).get a = .ok v := by
  rw [get_insert_alias ha, types_insert]
  split
  · rfl
  · rename_i hname
    obtain ⟨-, haliases⟩ := requireFree_eq_ok_iff.1 hfree
    have hproper := mem_properAliases.2 ⟨ha, hname⟩
    obtain ⟨htype, -⟩ := requireFreeAlias_eq_ok_iff.1 (haliases a hproper)
    rw [Table.get?_eq_none_iff.2 htype]
    rfl

/-- Names and aliases after any calls.  A type that was just registered is found under its name,
and under each alias that is not the name of another type; if it replaced nothing, under each of
them.  Later an alias leads to the type that is called so, if there is one, and else to the type
whose alias it is; where nothing was ever replaced, always to the latter. -/
theorem get_alias (commands : List Command) :
    let r := empty.performAll commands
    (∀ v aliases replace s log, r.register v aliases replace = .ok (s, log) →
      s.get v.name = .ok v ∧
        ∀ a ∈ aliases, s.get a = .ok ((s.types.get? (Text.lowercase a)).getD v) ∧
          (replace = false → s.get a = .ok v)) ∧
    (∀ name v, r.types.get? (Text.lowercase name) = some v →
      ∀ a ∈ r.aliasesOf name, r.get a = .ok ((r.types.get? a).getD v) ∧
        ((∀ c ∈ commands, c.replaces = false) → r.get a = .ok v)) := by
  intro r
  constructor
  · intro v aliases replace s log hregister
    obtain ⟨rfl, hfree⟩ := eq_insert_of_register hregister
    refine ⟨get_eq_of_name (by rw [types_insert, if_pos rfl]), fun a ha => ?_⟩
    exact ⟨get_insert_alias ha, fun h => get_insert_alias_of_free (hfree h) ha⟩
  · intro name v hv a ha
    have hkeyed : r.AliasesKeyed := aliasesKeyed_performAll commands
    have htarget := hkeyed.mem_aliasesOf_iff.1 ha
    have hmem : a ∈ r.aliases.keys :=
      Table.has_iff_mem_keys.1 ((Table.has_iff ..).2 ⟨_, htarget⟩)
    -- aliases are kept in lower case, so looking one up lowers nothing
    have hlow : Text.lowercase a = a := hkeyed.low a hmem
    have hget := get_eq_of_alias (hlow.symm ▸ htarget) hv
    rw [hlow] at hget
    refine ⟨hget, fun hnone => ?_⟩
    have hapart : a ∉ r.types.keys := fun hk => namesApart_performAll hnone a hk hmem
    have htype : r.types.get? a = none := by
      rw [Table.get?_eq_none_iff, Bool.eq_false_iff]
      exact fun h => hapart (Table.has_iff_mem_keys.1 h)
    rw [hget, htype]
    rfl

/-- A registration that replaces gives one alias of its own and one that is the name of another
type; the aliases of that type lead to it as before. -/
theorem get_alias_decimal :
    let int : ValueType := ⟨"int", "Int", "Integer", "0"⟩
    let decimal : ValueType := ⟨"decimal", "Decimal", "BigDecimal", "null"⟩
    let r := empty.performAll [.register int ["integer"] false]
    let s := r.insert decimal ["Big", "Int"]
    s.get "decimal" = .ok decimal ∧ s.get "Big" = .ok decimal ∧ s.get "Int" = .ok int ∧
      r.get "integer" = .ok int := by
  intro int decimal r s
  obtain ⟨hregister, halias⟩ := get_alias [.register int ["integer"] false]
  obtain ⟨hname, hgiven⟩ := hregister decimal ["Big", "Int"] true s _ (register_replacing ..)
  have hbig : s.types.get? (Text.lowercase "Big") = none := by decide +kernel
  have hint : s.types.get? (Text.lowercase "Int") = some int := by decide +kernel
  have hinteger : "integer" ∈ r.aliasesOf "int" :=
    (aliasesKeyed_performAll _).mem_aliasesOf_iff.2 (by decide +kernel)
  have hown := (halias "int" int (by decide +kernel) "integer" hinteger).2 (by decide)
  refine ⟨hname, ?_, ?_, hown⟩
  · rw [(hgiven "Big" (by decide)).1, hbig]
    rfl
  · rw [(hgiven "Int" (by decide)).1, hint]
    rfl

/-- A registration that replaces is accepted with an alias that is the name of another type, keeps
the alias among its own, and is not found under it. -/
theorem shadowed_alias_of_replacing :
    let int : ValueType := ⟨"int", "Int", "Integer", "0"⟩
    let decimal : ValueType := ⟨"decimal", "Decimal", "BigDecimal", "null"⟩
    let r := empty.performAll [.register int [] false]
    ∃ s, r.register decimal ["int"] true = .ok (s, [registeredRecord decimal]) ∧
      s.types.get? (Text.lowercase "decimal") = some decimal ∧
      "int" ∈ s.aliasesOf "decimal" ∧ s.get "int" = .ok int ∧ s.get "int" ≠ .ok decimal := by
  intro int decimal r
  have hkeyed : (r.insert decimal ["int"]).AliasesKeyed :=
    (aliasesKeyed_performAll _).insert decimal ["int"]
  have hkept : "int" ∈ (r.insert decimal ["int"]).aliasesOf "decimal" :=
    hkeyed.mem_aliasesOf_iff.2 (by decide +kernel)
  have hfound : (r.insert decimal ["int"]).get "int" = .ok int := by decide +kernel
  have hdiffer : int ≠ decimal := by decide
  refine ⟨_, register_replacing .., by decide +kernel, hkept, hfound, ?_⟩
  rw [hfound]
  exact fun h => hdiffer (Except.ok.inj h)

end Registry

end JavaScribe
