import JavaScribe.ValueType.Registry

/-!
# Registering step by step

A registration works on the registry itself.  It checks the name and then each of the aliases, puts
the type in its place, and then each alias.  No step is ever taken back: what was put in place
before a failure would stay there.  So the order of the steps matters, and all checks come before
the first change.
-/

set_option autoImplicit false

namespace JavaScribe

/-- A registry while a call works on it, and the records of the call so far. -/
structure RegistryState where
  registry : Registry
  log : Log
deriving DecidableEq

/-- Steps on a registry.  The state outlives a failure. -/
abbrev RegistryBuilder := EStateM RegistryError RegistryState

namespace RegistryBuilder

/-- A check, which reads the registry and changes nothing. -/
def require (test : Registry → Except RegistryError Unit) : RegistryBuilder Unit := fun s =>
  match test s.registry with
  | .ok () => .ok () s
  | .error e => .error e s

/-- Puts a type at a key. -/
def putType (key : String) (v : ValueType) : RegistryBuilder Unit :=
  modify fun s => { s with registry := { s.registry with types := s.registry.types.put key v } }

/-- Lets an alias lead to a key. -/
def putAlias (name key : String) : RegistryBuilder Unit :=
  modify fun s =>
    { s with registry := { s.registry with aliases := s.registry.aliases.put name key } }

/-- Logs a record. -/
def record (r : LogRecord) : RegistryBuilder Unit := modify fun s => { s with log := s.log ++ [r] }

/-- Registers a value type under its name and aliases. -/
def register (v : ValueType) (aliases : List String) (replace : Bool) : RegistryBuilder Unit := do
  let key := Text.lowercase v.name
  let proper := Registry.properAliases key aliases
  unless replace do
    require fun r => r.requireFreeName v.name
    proper.forM fun a => require fun r => r.requireFreeAlias key a
  putType key v
  proper.forM fun a => putAlias (Text.lowercase a) key
  record (Registry.registeredRecord v)

end RegistryBuilder

end JavaScribe
