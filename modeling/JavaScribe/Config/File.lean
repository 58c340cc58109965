import JavaScribe.Config.Basic
import JavaScribe.File.Storage
import JavaScribe.Json.Parser
import JavaScribe.Json.Printer
import JavaScribe.Text.Lowercase
import JavaScribe.Log

/-!
# Configuration files

A configuration file is a JSON object in a file whose name ends in `.json`, in any case.  What is
wrong with a file is reported in a fixed order: it is missing, it has another suffix, it cannot be
read, it is not JSON, it is no object.  Saving writes the settings and the custom settings side by
side, so that loading the file again gives the same configuration.

Whoever loads a file says how deep its values may nest.
-/

set_option autoImplicit false

namespace JavaScribe

/-- Why a configuration could not be loaded or saved. -/
inductive ConfigError where
  | notFound (path : String)
  | wrongSuffix (path : String)
  | unreadable (path : String)
  /-- The bytes of the file are not text. -/
  | undecodable
  | invalidJson (path : String)
  | overlong (numeral : Text.OverlongNumeral)
  | tooDeep
  | notAnObject (path : String)
  | unwritable (path : String)
  | pathTooLong
  /-- A file cannot be written to a path with a null character. -/
  | nullCharacter
  /-- The custom settings are not made of entries. -/
  | custom (cause : Json.EntryFault)
deriving DecidableEq, Repr

/-- The message of an error with a configuration file. -/
def ConfigError.message : ConfigError → String
  | .notFound path => "Configuration file not found: " ++ path
  | .wrongSuffix path => "Configuration file must be JSON: " ++ path
  | .unreadable path => "Failed to load configuration file " ++ path
  | .undecodable => "The configuration file is not valid text"
  | .invalidJson path => "Invalid JSON in configuration file " ++ path
  | .overlong numeral => numeral.message
  | .tooDeep => "The values of the configuration file nest too deep"
  | .notAnObject path => "Configuration file must contain a JSON object: " ++ path
  | .unwritable path => "Failed to save configuration to " ++ path
  | .pathTooLong => "The path of the configuration file is too long"
  | .nullCharacter => "embedded null byte"
  | .custom cause => cause.message

namespace Config

/-- The text of a file; a directory has none, and not all bytes are text. -/
def readText (path : FilePath) : FileNode → Except ConfigError String
  | .directory => .error (.unreadable path.text)
  | .text content => .ok content
  | .bytes content =>
    match String.fromUTF8? content with
    | some content => .ok content
    | none => .error .undecodable

/-- The fields of an object that a text holds, whose values nest no deeper than given. -/
def readObject (nesting : Nat) (path : FilePath) (content : String) : Except ConfigError Fields :=
  match Json.parseWithin nesting content with
  | .ok (.object fields) => .ok fields
  | .ok _ => .error (.notAnObject path.text)
  | .error .malformed => .error (.invalidJson path.text)
  | .error (.overlong numeral) => .error (.overlong numeral)
  | .error .tooDeep => .error .tooDeep

/-- Reads a configuration file. It has to be there first, and then its name has to be right. -/
def readFile (nesting : Nat) (storage : Storage) (path : FilePath) : Except ConfigError Fields :=
  match storage.find path with
  | .error .tooLong => .error .pathTooLong
  | .error _ => .error (.notFound path.text)
  | .ok node =>
    if Text.lowercase path.suffix != ".json" then .error (.wrongSuffix path.text)
    else
      match readText path node with
      | .ok content => readObject nesting path content
      | .error e => .error e

/-- The record that a file was read. -/
def loadedRecord (path : FilePath) : LogRecord :=
  ⟨.debug, "Loaded configuration from " ++ path.text⟩

end Config

/-- What loading a configuration comes to, and what it logs. -/
structure LoadedConfig where
  outcome : Except ConfigError Config
  log : Log

namespace Config

/-- The configuration with overrides and a file, if one is given.  A file that was read is recorded
before its fields are merged. -/
def loadFrom (nesting : Nat) (storage : Storage) (overrides : Fields) (file : Option FilePath) :
    LoadedConfig :=
  match file with
  | none => ⟨(load overrides).mapError .custom, []⟩
  | some path =>
    match readFile nesting storage path with
    | .ok fields => ⟨(merge fields overrides).mapError .custom, [loadedRecord path]⟩
    | .error e => ⟨.error e, []⟩

/-- The text that a configuration is saved as. -/
def savedText (c : Config) : Except Json.EntryFault String :=
  c.savedFields.map fun fields => (Json.object fields).block

/-- Saves a configuration, with the custom settings on the level of the others. -/
def save (storage : Storage) (c : Config) (path : FilePath) : Except ConfigError Storage :=
  match c.savedText with
  | .error fault => .error (.custom fault)
  | .ok content =>
    match storage.write path content with
    | .ok storage => .ok storage
    | .error .nullCharacter => .error .nullCharacter
    | .error _ => .error (.unwritable path.text)

end Config

end JavaScribe
