import JavaScribe.ValueType.Basic
import JavaScribe.Table
import JavaScribe.Text.Lowercase
import JavaScribe.Log

/-!
# Registries of value types

A registry keeps value types in the order of their registration, under their names in lower case.
Aliases are further names, each of which leads to the name of a type.  A registration is refused
when its name or one of its aliases is taken, unless it is to replace what is there.
-/

set_option autoImplicit false

namespace JavaScribe

/-- Why a registration or a look-up was refused. -/
inductive RegistryError where
  | nameTaken (name : String)
  | nameIsAlias (name target : String)
  | aliasIsType (name : String)
  | aliasTaken (name target : String)
  | unknown (name : String) (available : List String)
  /-- An alias leads to a name under which there is no type. -/
  | missingTarget (target : String)
deriving DecidableEq, Repr

/-- The message of a refused request. -/
def RegistryError.message : RegistryError → String
  | .nameTaken name => "Value type already registered: " ++ name
  | .nameIsAlias name target =>
    "Value type '" ++ name ++ "' conflicts with an alias of '" ++ target ++ "'"
  | .aliasIsType name => "Alias '" ++ name ++ "' conflicts with an existing value type"
  | .aliasTaken name target => "Alias '" ++ name ++ "' already points to '" ++ target ++ "'"
  | .unknown name available =>
    "No value type registered for: " ++ name ++ ". Available: " ++ ", ".intercalate available
  | .missingTarget target => Text.quote target

/-- Types by their names, with other names that lead to them. -/
structure Registry where
  /-- The types by their names in lower case. -/
  types : Table ValueType
  /-- The names in lower case that aliases lead to, by the aliases in lower case. -/
  aliases : Table String
deriving DecidableEq

namespace Registry

/-- The registry without types. -/
def empty : Registry := ⟨[], []⟩

/-- Whether a name or alias is registered. -/
def contains (r : Registry) (name : String) : Bool :=
  r.types.has (Text.lowercase name) || r.aliases.has (Text.lowercase name)

/-- The names of the registered types, as they were given. -/
def names (r : Registry) : List String := r.types.values.map ValueType.name

/-- Refuses a name that is taken by a type or an alias. -/
def requireFreeName (r : Registry) (name : String) : Except RegistryError Unit :=
  let key := Text.lowercase name
  if r.types.has key then .error (.nameTaken name)
  else
    match r.aliases.get? key with
    | some target => .error (.nameIsAlias name target)
    | none => .ok ()

/-- Refuses an alias that is taken by a type, or by an alias of another type. -/
def requireFreeAlias (r : Registry) (key name : String) : Except RegistryError Unit :=
  let aliasKey := Text.lowercase name
  if r.types.has aliasKey then .error (.aliasIsType name)
  else
    match r.aliases.get? aliasKey with
    | some target => if target = key then .ok () else .error (.aliasTaken name target)
    | none => .ok ()

/-- Refuses a list of aliases because of the first that is taken. -/
def requireFreeAliases (r : Registry) (key : String) : List String → Except RegistryError Unit
  | [] => .ok ()
  | name :: names =>
    match r.requireFreeAlias key name with
    | .ok () => r.requireFreeAliases key names
    | .error e => .error e

/-- The aliases that differ from the name itself. -/
def properAliases (key : String) (aliases : List String) : List String :=
  aliases.filter fun a => Text.lowercase a != key

/-- Refuses a registration that takes something that is not free. -/
def requireFree (r : Registry) (v : ValueType) (aliases : List String) :
    Except RegistryError Unit :=
  let key := Text.lowercase v.name
  match r.requireFreeName v.name with
  | .ok () => r.requireFreeAliases key (properAliases key aliases)
  | .error e => .error e

/-- The registry with a value type and its aliases. -/
def insert (r : Registry) (v : ValueType) (aliases : List String) : Registry :=
  let key := Text.lowercase v.name
  ⟨r.types.put key v,
    r.aliases.putAll ((properAliases key aliases).map fun a => (Text.lowercase a, key))⟩

/-- The record that a type was registered. -/
def registeredRecord (v : ValueType) : LogRecord :=
  ⟨.debug, "Registered value type " ++ v.name⟩

/-- Registers a value type under its name and aliases. -/
def register (r : Registry) (v : ValueType) (aliases : List String) (replace : Bool) :
    Except RegistryError (Registry × Log) :=
  if replace then .ok (r.insert v aliases, [registeredRecord v])
  else
    match r.requireFree v aliases with
    | .ok () => .ok (r.insert v aliases, [registeredRecord v])
    | .error e => .error e

/-- Removes a value type and the aliases that lead to it. -/
def unregister (r : Registry) (name : String) : Registry :=
  let key := Text.lowercase name
  ⟨r.types.erase key, r.aliases.filter fun a => a.2 != key⟩

/-- The value type of a name or alias; names go before aliases.  That the name is unknown is told
from an alias that leads nowhere. -/
def get (r : Registry) (name : String) : Except RegistryError ValueType :=
  let key := Text.lowercase name
  match r.types.get? key with
  | some v => .ok v
  | none =>
    match r.aliases.get? key with
    | none => .error (.unknown name r.names)
    | some target =>
      match r.types.get? target with
      | some v => .ok v
      | none => .error (.missingTarget target)

/-- The aliases that lead to a name, in order. -/
def aliasesOf (r : Registry) (name : String) : List String :=
  ((r.aliases.filter fun a => a.2 == Text.lowercase name).map (·.1)).mergeSort
    fun a b => decide (a ≤ b)

/-- The primitive types of the Java language that hold values, with their aliases. -/
def primitiveTypes : List (ValueType × List String) := [
  (⟨"boolean", "Bool", "Boolean", "false"⟩, ["bool"]),
  (⟨"byte", "Byte", "Byte", "0"⟩, []),
  (⟨"char", "Char", "Character", "'\\u0000'"⟩, ["character"]),
  (⟨"double", "Double", "Double", "0.0D"⟩, []),
  (⟨"float", "Float", "Float", "0.0F"⟩, []),
  (⟨"int", "Int", "Integer", "0"⟩, ["integer"]),
  (⟨"long", "Long", "Long", "0L"⟩, []),
  (⟨"short", "Short", "Short", "0"⟩, [])]

/-- The registry of the primitive types with their aliases. -/
def primitive : Registry := primitiveTypes.foldl (fun r p => r.insert p.1 p.2) empty

/-- The records of the registration of the primitive types. -/
def primitiveLog : Log := primitiveTypes.map fun p => registeredRecord p.1

end Registry

end JavaScribe
