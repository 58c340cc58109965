import JavaScribe.Json.Entries

/-!
# Configurations

A configuration has eight settings with defaults and an object of custom settings.  It is merged
from layers: the defaults, a file, and overrides, each of which replaces whole values.  A key that
is no setting belongs to the custom settings, and is moved there after the layers are merged.  This
fails only if there is such a key and the custom settings are not made of entries.

Values are kept as they were given.  Their types are looked at where they are used.
-/

set_option autoImplicit false

namespace JavaScribe

/-- A setting with a name of its own. -/
inductive Setting where
  | indentSize
  | useTabs
  | lineEnding
  | wildcardThreshold
  | implicitPackages
  | groupPrefixes
  | bannerWidth
  | copyrightHeader
deriving DecidableEq, Repr

namespace Setting

/-- The settings, in the order in which they are written. -/
def all : List Setting :=
  [.indentSize, .useTabs, .lineEnding, .wildcardThreshold, .implicitPackages, .groupPrefixes,
    .bannerWidth, .copyrightHeader]

/-- The key of a setting in a file and among overrides. -/
def key : Setting → String
  | .indentSize => "indent_size"
  | .useTabs => "use_tabs"
  | .lineEnding => "line_ending"
  | .wildcardThreshold => "wildcard_import_threshold"
  | .implicitPackages => "implicit_packages"
  | .groupPrefixes => "import_group_prefixes"
  | .bannerWidth => "banner_width"
  | .copyrightHeader => "copyright_header"

/-- The value of a setting that no layer sets. -/
def default : Setting → Json
  | .indentSize => .int 4
  | .useTabs => .bool false
  | .lineEnding => .string "\n"
  | .wildcardThreshold => .int 5
  | .implicitPackages => .array [.string "java.lang"]
  | .groupPrefixes => .array [.string "java.", .string "javax."]
  | .bannerWidth => .int 160
  | .copyrightHeader => .string ""

/-- There are no further settings. -/
theorem mem_all (s : Setting) : s ∈ all := by cases s <;> decide

end Setting

/-- The key of the custom settings. -/
def customKey : String := "custom"

/-- The keys that are not moved to the custom settings. -/
def knownKeys : List String := Setting.all.map Setting.key ++ [customKey]

/-- The custom settings of a configuration. -/
inductive CustomSettings where
  /-- A value as it was given, an object in every sensible configuration. -/
  | value (j : Json)
  /-- Entries that are no object, since some of their keys are no texts. -/
  | entries (es : Json.Entries)
deriving DecidableEq

namespace CustomSettings

/-- The custom settings with the given entries. -/
def ofEntries (es : Json.Entries) : CustomSettings :=
  match es.fields? with
  | some fields => value (.object fields)
  | none => entries es

/-- The entries, or those that a value stands for. -/
def toEntries : CustomSettings → Except Json.EntryFault Json.Entries
  | value j => j.entries
  | entries es => .ok es

/-- The entries, if the custom settings are an object or hold entries. -/
def mapping? : CustomSettings → Option Json.Entries
  | value (.object fields) => some (.ofFields fields)
  | value _ => none
  | entries es => some es

/-- The custom settings as they are written. -/
def written : CustomSettings → Json
  | value j => j
  | entries es => .object es.written

end CustomSettings

/-- A configuration: a value for every setting, and the custom settings. -/
structure Config where
  value : Setting → Json
  custom : CustomSettings

namespace Config

/-- Configurations are compared setting by setting. -/
instance : DecidableEq Config := fun a b =>
  decidable_of_iff ((∀ s ∈ Setting.all, a.value s = b.value s) ∧ a.custom = b.custom) (by
    cases a
    cases b
    simp only [Config.mk.injEq]
    exact and_congr_left' ⟨fun h => funext fun s => h s s.mem_all, fun h s _ => by rw [h]⟩)

/-- The layer below all others. -/
def defaults : Fields :=
  Setting.all.map (fun s => (s.key, s.default)) ++ [(customKey, .object [])]

/-- The fields of an object; a value that is none, or is absent, has no fields. -/
def fieldsOf : Json → Fields
  | .object fields => fields
  | _ => []

/-- The entries of custom settings; a value that counts as absent has none. -/
def customEntries (custom : Json) : Except Json.EntryFault Json.Entries :=
  if custom.isFalsy then .ok [] else custom.entries

/-- The custom settings with unknown keys, which go after the keys that are there. -/
def joinCustom (custom : Json) (unknown : Fields) : Except Json.EntryFault CustomSettings :=
  if unknown.isEmpty then .ok (.value custom)
  else (customEntries custom).map fun es => .ofEntries (es.putAll (.ofFields unknown))

/-- The configuration of merged fields; keys that are no setting go to the custom settings. -/
def ofFields (fs : Fields) : Except Json.EntryFault Config :=
  (joinCustom ((fs.get? customKey).getD (.object []))
      (fs.filter fun f => !knownKeys.contains f.1)).map fun custom =>
    { value := fun s => (fs.get? s.key).getD s.default, custom }

/-- Merges a file and overrides into the defaults. -/
def merge (file overrides : Fields) : Except Json.EntryFault Config :=
  ofFields ((defaults.putAll file).putAll overrides)

/-- Merges overrides into the defaults, without a file. -/
def load (overrides : Fields) : Except Json.EntryFault Config := merge [] overrides

/-- Replaces single settings of a configuration, if all keys are known. -/
def replace? (c : Config) (overrides : Fields) : Option Config :=
  if overrides.all fun f => knownKeys.contains f.1 then
    some
      { value := fun s => (overrides.get? s.key).getD (c.value s)
        custom := ((overrides.get? customKey).map .value).getD c.custom }
  else none

/-- The settings as fields, in order. -/
def settingFields (c : Config) : Fields := Setting.all.map fun s => (s.key, c.value s)

/-- All of a configuration as fields, with the custom settings last. -/
def toFields (c : Config) : Fields := c.settingFields ++ [(customKey, c.custom.written)]

/-- What is written to a file: the settings, followed by the custom settings on the same level. -/
def savedFields (c : Config) : Except Json.EntryFault Fields :=
  c.custom.toEntries.map fun custom =>
    ((Json.Entries.ofFields c.settingFields).putAll custom).written

end Config

end JavaScribe
