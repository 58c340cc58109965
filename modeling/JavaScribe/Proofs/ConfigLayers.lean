import JavaScribe.Config.File
import JavaScribe.Proofs.ObjectKeys

/-!
# Layers of a configuration

A configuration is merged from the defaults, the fields of a file and overrides, and of each setting
the last layer that gives it a value decides.  The custom settings are one value among the others
until the layers are merged; only then do the keys that are no settings go there, on top of what is
there already.  So an override of a custom setting decides if it stands beside the settings, but if
it stands inside the custom settings a file can still decide against it, by giving the same key
beside its settings (`Config.loadFrom_overrides`).
-/

set_option autoImplicit false

namespace JavaScribe

namespace CustomSettings

/-- The custom setting with a key. -/
def setting? (c : CustomSettings) (k : String) : Option Json :=
  c.mapping?.bind fun es => es.get? k

/-- Custom settings hold the entries that they are made of. -/
theorem mapping?_ofEntries (es : Json.Entries) : (ofEntries es).mapping? = some es := by
  unfold ofEntries
  split
  · rename_i fields hfields
    have hes : Json.Entries.ofFields fields = es := Json.Entries.ofFields_of_fields? hfields
    rw [mapping?, hes]
  · rfl

end CustomSettings

namespace Config

variable {custom : Json} {unknown file overrides : Fields} {joined : CustomSettings}
  {fault : Json.EntryFault} {k : String}

/-- Custom settings are joined unless there are unknown keys and nothing that they could be put
into. -/
theorem joinCustom_eq_error_iff :
    joinCustom custom unknown = .error fault ↔
      unknown ≠ [] ∧ customEntries custom = .error fault := by
  unfold joinCustom
  cases unknown with
  | nil => simp
  | cons f unknown => cases customEntries custom <;> simp [Except.map]

/-- Of the entries that custom settings are made of and the unknown keys, the latter decide. -/
theorem setting?_joinCustom (hunknown : unknown.keys.Nodup) (hne : unknown ≠ [])
    (h : joinCustom custom unknown = .ok joined) :
    ∃ es, customEntries custom = .ok es ∧
      joined.setting? k = (unknown.get? k).or (es.get? k) := by
  unfold joinCustom at h
  rw [if_neg (by simpa using hne)] at h
  obtain ⟨es, hes, rfl⟩ := except_map_eq_ok_iff.mp h
  refine ⟨es, hes, ?_⟩
  rw [CustomSettings.setting?, CustomSettings.mapping?_ofEntries, Option.bind_some,
    Json.Entries.get?_putAll_ofFields es hunknown]

/-- An unknown key has its value in the joined settings. -/
theorem setting?_joinCustom_of_unknown {v : Json} (hunknown : unknown.keys.Nodup)
    (h : joinCustom custom unknown = .ok joined) (hk : unknown.get? k = some v) :
    joined.setting? k = some v := by
  have hne : unknown ≠ [] := by
    rintro rfl
    cases hk
  obtain ⟨es, -, hsetting⟩ := setting?_joinCustom (k := k) hunknown hne h
  rw [hsetting, hk, Option.some_or]

/-- An object has its fields as entries. -/
theorem customEntries_object (fields : Fields) :
    customEntries (.object fields) = .ok (.ofFields fields) := by
  cases fields <;> rfl

/-- In an object that unknown keys are joined to, an unknown key decides, and else the object. -/
theorem setting?_joinCustom_of_object {inner : Fields} (hunknown : unknown.keys.Nodup)
    (h : joinCustom (.object inner) unknown = .ok joined) :
    joined.setting? k = (unknown.get? k).or (inner.get? k) := by
  by_cases hne : unknown = []
  · subst hne
    obtain rfl := Except.ok.inj h
    exact Json.Entries.get?_ofFields inner k
  · obtain ⟨es, hes, hsetting⟩ := setting?_joinCustom (k := k) hunknown hne h
    rw [customEntries_object] at hes
    obtain rfl := Except.ok.inj hes
    rw [hsetting, Json.Entries.get?_ofFields]

/-- The fields of all layers, of which a later one decides. -/
def layered (file overrides : Fields) : Fields := (defaults.putAll file).putAll overrides

/-- The fields of the layers that are no settings. -/
def unknownFields (file overrides : Fields) : Fields :=
  (layered file overrides).filter fun f => !knownKeys.contains f.1

/-- The custom settings that the layers give, before unknown keys are moved there. -/
def layeredCustom (file overrides : Fields) : Json :=
  ((overrides.get? customKey).or (file.get? customKey)).getD (.object [])

/-- The defaults have all keys that are known, and no other. -/
theorem keys_defaults : Table.keys defaults = knownKeys := rfl

/-- The defaults say nothing of an unknown key. -/
theorem get?_defaults_of_unknown (hk : k ∉ knownKeys) : defaults.get? k = none := by
  rw [Table.get?_eq_none_iff, Bool.eq_false_iff, Ne, Table.has_iff_mem_keys]
  exact hk

/-- No unknown key is there twice. -/
theorem nodup_keys_unknownFields (file overrides : Fields) :
    (unknownFields file overrides).keys.Nodup := by
  have hdefaults : (Table.keys defaults).Nodup := by decide
  have hlayered : (layered file overrides).keys.Nodup :=
    Table.nodup_keys_putAll (Table.nodup_keys_putAll hdefaults file) overrides
  exact hlayered.sublist (List.filter_sublist.map _)

/-- The unknown keys are those of the file and the overrides that are not known. -/
theorem mem_keys_unknownFields :
    k ∈ (unknownFields file overrides).keys ↔
      k ∉ knownKeys ∧ (k ∈ overrides.keys ∨ k ∈ file.keys) := by
  have hlayered : k ∈ (layered file overrides).keys ↔
      k ∈ overrides.keys ∨ k ∈ file.keys ∨ k ∈ knownKeys := by
    rw [layered, Table.mem_keys_putAll, Table.mem_keys_putAll, keys_defaults]
  have hfilter : k ∈ (unknownFields file overrides).keys ↔
      k ∉ knownKeys ∧ k ∈ (layered file overrides).keys := by
    simp [unknownFields, Table.keys, List.mem_filter, and_comm]
  rw [hfilter, hlayered]
  exact and_congr_right fun hk => or_congr_right (or_iff_left hk)

/-- There are unknown keys just if the file or the overrides have one. -/
theorem unknownFields_ne_nil_iff :
    unknownFields file overrides ≠ [] ↔ ∃ k ∉ knownKeys, k ∈ overrides.keys ∨ k ∈ file.keys := by
  constructor
  · intro hne
    obtain ⟨f, hf⟩ := List.exists_mem_of_ne_nil _ hne
    exact ⟨f.1, mem_keys_unknownFields.mp (List.mem_map_of_mem hf)⟩
  · rintro ⟨k, hk⟩ hnil
    have hmem : k ∈ (unknownFields file overrides).keys := mem_keys_unknownFields.mpr hk
    rw [hnil] at hmem
    exact absurd hmem List.not_mem_nil

section Merge

variable (hfile : file.keys.Nodup) (hoverrides : overrides.keys.Nodup)

include hfile hoverrides

/-- In the merged layers an override decides, then the file, and at last the default. -/
theorem get?_layered (k : String) :
    (layered file overrides).get? k =
      (overrides.get? k).or ((file.get? k).or (defaults.get? k)) := by
  rw [layered, Table.get?_putAll hoverrides, Table.get?_putAll hfile]

/-- Of an unknown key an override decides, and else the file. -/
theorem get?_unknownFields (hk : k ∉ knownKeys) :
    (unknownFields file overrides).get? k = (overrides.get? k).or (file.get? k) := by
  have hkeep : (!knownKeys.contains k) = true := by simpa using hk
  have hfilter := Table.get?_filter (t := layered file overrides) (fun l => !knownKeys.contains l) k
  rw [if_pos hkeep, get?_layered hfile hoverrides, get?_defaults_of_unknown hk,
    Option.or_none] at hfilter
  exact hfilter

/-- What merging a file and overrides into the defaults comes to. -/
theorem merge_eq :
    merge file overrides =
      (joinCustom (layeredCustom file overrides) (unknownFields file overrides)).map fun custom =>
        { value := fun s => ((overrides.get? s.key).or (file.get? s.key)).getD s.default
          custom := custom } := by
  have hcustom : ((layered file overrides).get? customKey).getD (.object []) =
      layeredCustom file overrides := by
    have hdefault : defaults.get? customKey = some (.object []) := rfl
    rw [get?_layered hfile hoverrides, hdefault, layeredCustom]
    cases overrides.get? customKey <;> cases file.get? customKey <;> rfl
  have hvalue : ∀ s : Setting, ((layered file overrides).get? s.key).getD s.default =
      ((overrides.get? s.key).or (file.get? s.key)).getD s.default := by
    intro s
    have hdefault : defaults.get? s.key = some s.default := by cases s <;> rfl
    rw [get?_layered hfile hoverrides, hdefault]
    cases overrides.get? s.key <;> cases file.get? s.key <;> rfl
  have hmerge : merge file overrides = ofFields (layered file overrides) := rfl
  rw [hmerge, ofFields, hcustom]
  simp only [hvalue]
  rfl

/-- Merging fails just if there are unknown keys and nothing that they could be put into. -/
theorem merge_eq_error_iff :
    merge file overrides = .error fault ↔
      (∃ k ∉ knownKeys, k ∈ overrides.keys ∨ k ∈ file.keys) ∧
        customEntries (layeredCustom file overrides) = .error fault := by
  rw [merge_eq hfile hoverrides, ← unknownFields_ne_nil_iff, ← joinCustom_eq_error_iff]
  cases joinCustom (layeredCustom file overrides) (unknownFields file overrides) <;>
    simp [Except.map]

/-- An unknown key among the overrides has its value in the custom settings. -/
theorem setting?_merge {c : Config} (h : merge file overrides = .ok c) (hk : k ∉ knownKeys)
    {v : Json} (hv : overrides.get? k = some v) : c.custom.setting? k = some v := by
  rw [merge_eq hfile hoverrides] at h
  obtain ⟨joined, hjoined, rfl⟩ := except_map_eq_ok_iff.mp h
  have hget : (unknownFields file overrides).get? k = some v := by
    rw [get?_unknownFields hfile hoverrides hk, hv, Option.some_or]
  exact setting?_joinCustom_of_unknown (nodup_keys_unknownFields file overrides) hjoined hget

/-- A key beside the settings of a file goes before the same key inside the overriding custom
settings. -/
theorem setting?_merge_of_inner {c : Config} (h : merge file overrides = .ok c) (hk : k ∉ knownKeys)
    {inner : Fields} (hnone : overrides.get? k = none)
    (hinner : overrides.get? customKey = some (.object inner)) :
    c.custom.setting? k = (file.get? k).or (inner.get? k) := by
  have hcustom : layeredCustom file overrides = .object inner := by
    rw [layeredCustom, hinner, Option.some_or, Option.getD_some]
  rw [merge_eq hfile hoverrides, hcustom] at h
  obtain ⟨joined, hjoined, rfl⟩ := except_map_eq_ok_iff.mp h
  have hunknown := nodup_keys_unknownFields file overrides
  rw [setting?_joinCustom_of_object hunknown hjoined, get?_unknownFields hfile hoverrides hk,
    hnone, Option.none_or]

end Merge

/-- In a file that is read no key is there twice. -/
theorem nodup_keys_of_readFile {nesting : Nat} {storage : Storage} {path : FilePath}
    (h : readFile nesting storage path = .ok file) : file.keys.Nodup := by
  unfold readFile at h
  split at h
  · cases h
  · cases h
  · split at h
    · cases h
    · split at h
      · unfold readObject at h
        split at h
        · rename_i hparse
          obtain rfl := Except.ok.inj h
          exact Json.nodup_keys_of_parseWithin hparse
        all_goals cases h
      · cases h

/-- If the file is read, loading it comes to merging it. -/
theorem outcome_loadFrom {nesting : Nat} {storage : Storage} {path : FilePath}
    (hfile : readFile nesting storage path = .ok file) :
    (loadFrom nesting storage overrides (some path)).outcome =
      (merge file overrides).mapError .custom := by
  rw [loadFrom, hfile]

/-- Overrides decide over a file, and a file over the defaults; loading a file that can be read
fails only if keys have to be moved to custom settings that are not made of entries.  Among the
custom settings, an override beside the settings decides as well, but one inside the custom
settings only decides if the file does not give its key beside the settings. -/
theorem loadFrom_overrides {nesting : Nat} {storage : Storage} {path : FilePath}
    (hfile : readFile nesting storage path = .ok file) (hoverrides : overrides.keys.Nodup) :
    (∀ e, (loadFrom nesting storage overrides (some path)).outcome = .error e ↔
      ∃ fault, e = .custom fault ∧
        (∃ k ∉ knownKeys, k ∈ overrides.keys ∨ k ∈ file.keys) ∧
        customEntries (layeredCustom file overrides) = .error fault) ∧
    ∀ c, (loadFrom nesting storage overrides (some path)).outcome = .ok c →
      (∀ s, c.value s = ((overrides.get? s.key).or (file.get? s.key)).getD s.default) ∧
      ∀ k ∉ knownKeys, ∀ v,
        (overrides.get? k = some v → c.custom.setting? k = some v) ∧
        ∀ inner : Fields, overrides.get? k = none →
          overrides.get? customKey = some (.object inner) → inner.get? k = some v →
          c.custom.setting? k = some ((file.get? k).getD v) := by
  have hkeys := nodup_keys_of_readFile hfile
  rw [outcome_loadFrom hfile]
  constructor
  · intro e
    -- of a file that was read, only the merging can fail
    simp only [except_mapError_eq_error_iff, merge_eq_error_iff hkeys hoverrides]
    exact exists_congr fun fault => and_comm
  · intro c hc
    have hmerge := except_mapError_eq_ok_iff.mp hc
    refine ⟨fun s => ?_, fun k hk v => ⟨fun hv => ?_, fun inner hnone hinner hv => ?_⟩⟩
    · rw [merge_eq hkeys hoverrides] at hmerge
      obtain ⟨joined, -, rfl⟩ := except_map_eq_ok_iff.mp hmerge
      rfl
    · exact setting?_merge hkeys hoverrides hmerge hk hv
    · rw [setting?_merge_of_inner hkeys hoverrides hmerge hk hnone hinner, hv]
      cases file.get? k <;> rfl

/-- An override beside the settings and two inside the custom settings, of which the file gives
one beside its own settings. -/
theorem loadFrom_overrides_vendor :
    let path : FilePath := ⟨0, ["settings.json"]⟩
    let file : Fields := [("vendor", .string "file"), ("banner_width", .int 120)]
    let storage : Storage := ⟨["tmp"], [(["tmp", "settings.json"], .text
      "\x7b\"vendor\": \"file\", \"banner_width\": 120\x7d")]⟩
    let inner : Fields := [("vendor", .string "override"), ("owner", .string "me")]
    let overrides : Fields :=
      [("banner_width", .int 100), ("region", .string "north"), (customKey, .object inner)]
    readFile 10 storage path = .ok file ∧ overrides.keys.Nodup ∧
      ∃ c, (loadFrom 10 storage overrides (some path)).outcome = .ok c ∧
        c.value .bannerWidth = .int 100 ∧ c.value .indentSize = .int 4 ∧
        c.custom.setting? "region" = some (.string "north") ∧
        c.custom.setting? "owner" = some (.string "me") ∧
        c.custom.setting? "vendor" = some (.string "file") := by
  intro path file storage inner overrides
  have hfile : readFile 10 storage path = .ok file := by decide +kernel
  have hkeys : overrides.keys.Nodup := by decide
  obtain ⟨hfault, hok⟩ := loadFrom_overrides hfile hkeys
  refine ⟨hfile, hkeys, ?_⟩
  cases hc : (loadFrom 10 storage overrides (some path)).outcome with
  | error e =>
    obtain ⟨fault, -, -, hcustom⟩ := (hfault e).mp hc
    have hentries : customEntries (layeredCustom file overrides) = .ok (.ofFields inner) := rfl
    rw [hentries] at hcustom
    cases hcustom
  | ok c =>
    obtain ⟨hvalue, hcustom⟩ := hok c hc
    refine ⟨c, rfl, ?_, ?_, ?_, ?_, ?_⟩
    · rw [hvalue]
      rfl
    · rw [hvalue]
      rfl
    · exact (hcustom "region" (by decide) _).1 rfl
    · exact (hcustom "owner" (by decide) _).2 inner rfl rfl rfl
    · exact (hcustom "vendor" (by decide) (.string "override")).2 inner rfl rfl rfl

/-- A file decides over an override, if it gives the key beside its settings and the override
stands inside the custom settings. -/
theorem inner_override_lost_to_file :
    let path : FilePath := ⟨0, ["settings.json"]⟩
    let storage : Storage :=
      ⟨["tmp"], [(["tmp", "settings.json"], .text "\x7b\"vendor\": \"file\"\x7d")]⟩
    let inner : Fields := [("vendor", .string "override")]
    let overrides : Fields := [(customKey, .object inner)]
    "vendor" ∉ knownKeys ∧ overrides.get? "vendor" = none ∧
      inner.get? "vendor" = some (.string "override") ∧
      ∃ c, (loadFrom 10 storage overrides (some path)).outcome = .ok c ∧
        c.custom.setting? "vendor" = some (.string "file") ∧
        c.custom.setting? "vendor" ≠ inner.get? "vendor" := by
  intro path storage inner overrides
  let file : Fields := [("vendor", .string "file")]
  have hfile : readFile 10 storage path = .ok file := by decide +kernel
  have hkeys : file.keys.Nodup ∧ overrides.keys.Nodup := by decide
  refine ⟨by decide, rfl, rfl, ?_⟩
  rw [outcome_loadFrom hfile]
  cases hc : merge file overrides with
  | error fault =>
    have hentries : customEntries (layeredCustom file overrides) = .ok (.ofFields inner) := rfl
    rw [merge_eq_error_iff hkeys.1 hkeys.2, hentries] at hc
    cases hc.2
  | ok c =>
    have hvendor : c.custom.setting? "vendor" = some (.string "file") :=
      setting?_merge_of_inner hkeys.1 hkeys.2 hc (by decide) rfl rfl
    refine ⟨c, rfl, hvendor, ?_⟩
    rw [hvendor]
    decide

end Config

end JavaScribe
