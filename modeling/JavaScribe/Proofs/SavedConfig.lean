import JavaScribe.Proofs.ConfigLayers
import JavaScribe.Proofs.JsonBlocks
import JavaScribe.Proofs.StoredFiles

/-!
# Saving a configuration and loading it again

A saved configuration has its custom settings on the same level as the others.  If none of them has
the key of a setting, loading takes them apart again: the keys of the settings are put over the
defaults, and what is left are the custom settings in their order.
-/

set_option autoImplicit false

namespace JavaScribe

/-- Fields are plain just if the values of all of them are. -/
theorem Json.fieldsPlain_iff {fields : Fields} :
    Json.fieldsPlain fields = true ↔ ∀ f ∈ fields, f.2.isPlain = true := by
  induction fields with
  | nil => simp [Json.fieldsPlain]
  | cons f fields ih => simp [Json.fieldsPlain, ih]

namespace Config

variable {c : Config} {fields : Fields}

/-- The settings are written with their keys, in order. -/
theorem keys_settingFields (c : Config) :
    Table.keys c.settingFields = Setting.all.map Setting.key := by
  simp [Table.keys, settingFields]

/-- What a configuration is saved as, if its custom settings are an object. -/
def savedObject (c : Config) (fields : Fields) : Fields := c.settingFields ++ fields

/-- The keys of a saved object are those of the settings and then those of the custom settings. -/
theorem keys_savedObject (c : Config) (fields : Fields) :
    (savedObject c fields).keys = Setting.all.map Setting.key ++ fields.keys := by
  rw [← keys_settingFields c]
  exact List.map_append

/-- If no custom setting is named like a known one, no key of a saved object is there twice. -/
theorem nodup_keys_savedObject (hkeys : fields.keys.Nodup)
    (hfree : ∀ k ∈ fields.keys, k ∉ knownKeys) : (savedObject c fields).keys.Nodup := by
  have hall : (Setting.all.map Setting.key).Nodup := by decide
  rw [keys_savedObject, List.nodup_append]
  refine ⟨hall, hkeys, ?_⟩
  rintro k hsetting l hl rfl
  exact hfree k hl (List.mem_append_left _ hsetting)

/-- If no key would be there twice, what is saved is the settings with the custom settings behind
them. -/
theorem savedFields_eq (hcustom : c.custom = .value (.object fields))
    (hkeys : (savedObject c fields).keys.Nodup) : c.savedFields = .ok (savedObject c fields) := by
  have hentries : c.custom.toEntries = .ok (.ofFields fields) := by
    rw [hcustom]
    rfl
  rw [savedFields, hentries]
  simp only [Except.map, Json.Entries.putAll_ofFields, Json.Entries.written_ofFields]
  rw [Table.putAll_eq_append hkeys]
  rfl

/-- A saved object is plain if the settings and custom settings are. -/
theorem isPlain_savedObject (hkeys : (savedObject c fields).keys.Nodup)
    (hsettings : ∀ s, (c.value s).isPlain = true) (hfields : Json.fieldsPlain fields = true) :
    (Json.object (savedObject c fields)).isPlain = true := by
  rw [Json.isPlain, Bool.and_eq_true]
  refine ⟨decide_eq_true hkeys, Json.fieldsPlain_iff.mpr fun f hf => ?_⟩
  rcases List.mem_append.mp hf with hsetting | hcustom
  · obtain ⟨s, -, rfl⟩ := List.mem_map.mp hsetting
    exact hsettings s
  · exact Json.fieldsPlain_iff.mp hfields f hcustom

/-- The settings keep their places among the defaults, and the other fields come after them. -/
theorem layered_savedObject (hkeys : fields.keys.Nodup) (hfree : ∀ k ∈ fields.keys, k ∉ knownKeys) :
    ∃ known : Fields, known.keys = knownKeys ∧
      layered (savedObject c fields) [] = known ++ fields := by
  have hknown : (defaults.putAll c.settingFields).keys = knownKeys := by
    apply Table.keys_putAll_of_subset
    intro k hk
    rw [keys_settingFields] at hk
    exact List.mem_append_left _ hk
  refine ⟨_, hknown, ?_⟩
  have hsplit : layered (savedObject c fields) [] =
      (defaults.putAll c.settingFields).putAll fields := List.foldl_append
  have hnodup : (Table.keys (defaults.putAll c.settingFields ++ fields)).Nodup := by
    have happend : Table.keys (defaults.putAll c.settingFields ++ fields) =
        knownKeys ++ fields.keys := by
      rw [← hknown]
      exact List.map_append
    rw [happend, List.nodup_append]
    refine ⟨by decide, hkeys, ?_⟩
    rintro k hk l hl rfl
    exact hfree k hl hk
  rw [hsplit, Table.putAll_eq_append hnodup]

/-- The unknown keys of a saved object are the custom settings. -/
theorem unknownFields_savedObject (hkeys : fields.keys.Nodup)
    (hfree : ∀ k ∈ fields.keys, k ∉ knownKeys) :
    unknownFields (savedObject c fields) [] = fields := by
  obtain ⟨known, hknown, hlayered⟩ := layered_savedObject (c := c) hkeys hfree
  have hdropped : known.filter (fun f => !knownKeys.contains f.1) = [] := by
    rw [List.filter_eq_nil_iff]
    intro f hf
    have hmem : f.1 ∈ knownKeys := hknown ▸ List.mem_map_of_mem hf
    simpa using hmem
  have hkept : fields.filter (fun f => !knownKeys.contains f.1) = fields := by
    rw [List.filter_eq_self]
    intro f hf
    have hmem : f.1 ∉ knownKeys := hfree f.1 (List.mem_map_of_mem hf)
    simpa using hmem
  rw [unknownFields, hlayered, List.filter_append, hdropped, hkept, List.nil_append]

/-- Unknown keys without any custom settings become the custom settings. -/
theorem joinCustom_nil (fields : Fields) (hkeys : fields.keys.Nodup) :
    joinCustom (.object []) fields = .ok (.value (.object fields)) := by
  cases fields with
  | nil => rfl
  | cons f fields =>
    have hput : Json.Entries.putAll [] (.ofFields (f :: fields)) = .ofFields (f :: fields) := by
      have h := Json.Entries.putAll_ofFields [] (f :: fields)
      rw [Table.putAll_eq_append (t := []) hkeys] at h
      exact h
    have hofEntries : CustomSettings.ofEntries (.ofFields (f :: fields)) =
        .value (.object (f :: fields)) := by
      rw [CustomSettings.ofEntries, Json.Entries.fields?_ofFields]
    rw [← hofEntries, ← hput]
    rfl

/-- A saved object has no key for the custom settings as a whole. -/
theorem get?_savedObject_customKey (hfree : ∀ k ∈ fields.keys, k ∉ knownKeys) :
    (savedObject c fields).get? customKey = none := by
  have hsetting : customKey ∉ Setting.all.map Setting.key := by decide
  have hcustom : customKey ∉ fields.keys := fun hmem => hfree _ hmem (by decide)
  rw [Table.get?_eq_none_iff, Bool.eq_false_iff, Ne, Table.has_iff_mem_keys, keys_savedObject,
    List.mem_append, not_or]
  exact ⟨hsetting, hcustom⟩

/-- Merging what was saved gives the configuration again. -/
theorem merge_savedObject (hcustom : c.custom = .value (.object fields)) (hkeys : fields.keys.Nodup)
    (hfree : ∀ k ∈ fields.keys, k ∉ knownKeys) : merge (savedObject c fields) [] = .ok c := by
  have hnodup : (savedObject c fields).keys.Nodup := nodup_keys_savedObject hkeys hfree
  have hnil : (Table.keys ([] : Fields)).Nodup := List.nodup_nil
  have hvalue : (fun s : Setting => (((Table.get? [] s.key).or
      ((savedObject c fields).get? s.key)).getD s.default)) = c.value := by
    funext s
    have hsetting : (s.key, c.value s) ∈ savedObject c fields :=
      List.mem_append_left _ (List.mem_map_of_mem (f := fun s => (s.key, c.value s)) s.mem_all)
    rw [(Table.get?_eq_some_iff hnodup).mpr hsetting]
    rfl
  have hlayered : layeredCustom (savedObject c fields) [] = .object [] := by
    rw [layeredCustom, get?_savedObject_customKey hfree]
    rfl
  rw [merge_eq hnodup hnil, hlayered, unknownFields_savedObject hkeys hfree,
    joinCustom_nil fields hkeys, hvalue, ← hcustom]
  rfl

/-- A file is read if its name is right and its text is an object. -/
theorem readFile_of_text {nesting : Nat} {storage : Storage} {path : FilePath} {content : String}
    (hsuffix : Text.lowercase path.suffix = ".json")
    (hfind : storage.find path = .ok (.text content))
    (hparse : Json.parseWithin nesting content = .ok (.object fields)) :
    readFile nesting storage path = .ok fields := by
  rw [readFile, hfind]
  simp only [hsuffix, bne_self_eq_false, Bool.false_eq_true, if_false, readText, readObject, hparse]

/-- Saving a configuration writes its text. -/
theorem write_of_save {storage saved : Storage} {path : FilePath} {content : String}
    (htext : c.savedText = .ok content) (hsave : c.save storage path = .ok saved) :
    storage.write path content = .ok saved := by
  unfold save at hsave
  simp only [htext] at hsave
  split at hsave
  · rename_i hwrite
    rw [hwrite, Except.ok.inj hsave]
  · cases hsave
  · cases hsave

/-- A configuration is saved as a text, the text is where it was written to, and a file with the
text gives the configuration again.  The custom settings have to be an object without a key of a
setting, and there must be no floating-point number and no overlong integer in any value. -/
theorem loadFrom_saved (hcustom : c.custom = .value (.object fields))
    (hfree : ∀ k ∈ fields.keys, k ∉ knownKeys) (hplain : (Json.object fields).isPlain = true)
    (hsettings : ∀ s, (c.value s).isPlain = true) :
    ∃ content, c.savedText = .ok content ∧
      (∀ storage path saved, c.save storage path = .ok saved →
        saved.find path = .ok (.text content)) ∧
      ∀ nesting storage path, (Json.object (c.settingFields ++ fields)).depth ≤ nesting →
        Text.lowercase path.suffix = ".json" → storage.find path = .ok (.text content) →
        (loadFrom nesting storage [] (some path)).outcome = .ok c := by
  obtain ⟨hkeys, hfields⟩ := Bool.and_eq_true_iff.mp hplain
  have hkeys : fields.keys.Nodup := of_decide_eq_true hkeys
  have hnodup : (savedObject c fields).keys.Nodup := nodup_keys_savedObject hkeys hfree
  have htext : c.savedText = .ok (Json.object (savedObject c fields)).block := by
    rw [savedText, savedFields_eq hcustom hnodup]
    rfl
  refine ⟨_, htext, ?_, ?_⟩
  · intro storage path saved hsave
    exact Storage.find_of_write (write_of_save htext hsave)
  · intro nesting storage path hdepth hsuffix hfind
    have hparse := Json.parseWithin_block (isPlain_savedObject hnodup hsettings hfields) hdepth
    rw [outcome_loadFrom (readFile_of_text hsuffix hfind hparse),
      merge_savedObject hcustom hkeys hfree]
    rfl

/-- Custom settings that nest, with an empty object, a control character and a negative number. -/
theorem loadFrom_saved_vendor :
    let fields : Fields := [("vendor", .object [("tags", .array [.string "a\"\\\n\x01é", .null]),
      ("none", .object [])]), ("offset", .int (-120))]
    let c : Config := { value := Setting.default, custom := .value (.object fields) }
    let path : FilePath := ⟨0, ["settings.JSON"]⟩
    ∃ saved, c.save (.empty ["tmp"]) path = .ok saved ∧
      (loadFrom 10 saved [] (some path)).outcome = .ok c := by
  intro fields c path
  obtain ⟨content, htext, hfind, hload⟩ := loadFrom_saved (c := c) rfl
    (by decide) (by decide) (fun s => by cases s <;> decide)
  have hwrite : ∃ saved, (Storage.empty ["tmp"]).write path content = .ok saved := by
    have hmissing : (Storage.empty ["tmp"]).resolve path = .error .missing := by decide +kernel
    have hparent : (Storage.empty ["tmp"]).resolve ⟨0, []⟩ = .ok ["tmp"] := by decide +kernel
    refine ⟨(Storage.empty ["tmp"]).store ["tmp", "settings.JSON"] (.text content), ?_⟩
    have hdirectory : (Storage.empty ["tmp"]).isDirectory ["tmp"] = true := by decide
    rw [Storage.write, hmissing]
    simp only [path, List.dropLast_singleton, List.getLast?_singleton, hparent, hdirectory, if_true,
      List.singleton_append]
  obtain ⟨saved, hwrite⟩ := hwrite
  have hsave : c.save (.empty ["tmp"]) path = .ok saved := by
    rw [save, htext]
    simp only [hwrite]
  exact ⟨saved, hsave, hload 10 saved path (by decide) (by decide +kernel) (hfind _ _ _ hsave)⟩

end Config

end JavaScribe
