import JavaScribe.Name

/-!
# Type expressions

A type expression is a type as a Java declaration writes it: a named type with type arguments, a
type variable, a wildcard, or an array.  A named type carries its package beside the name it is
printed with; the name of a member type is dotted (`Map.Entry`).  Primitive types are named types
without a package.

Beside the printed text this module gives the named types that an expression mentions, in the
order in which they stand, for these are what has to be imported.
-/

set_option autoImplicit false

namespace JavaScribe

/-- A type as it is written in a declaration. -/
inductive TypeExpr where
  /-- A class, interface or primitive type. -/
  | named (name package : String) (arguments : List TypeExpr) (primitive : Bool)
  /-- A type variable. -/
  | var (name : String)
  /-- The wildcard without a bound; its direction is kept although it is not printed. -/
  | wildcard (upper : Bool)
  /-- A wildcard with an upper or a lower bound. -/
  | bounded (upper : Bool) (bound : TypeExpr)
  /-- An array of one or more dimensions. -/
  | array (component : TypeExpr) (dimensions : Nat)
deriving Inhabited

namespace TypeExpr

mutual
/-- Whether two type expressions are the same value. -/
def same : TypeExpr → TypeExpr → Bool
  | named n p as i, named m q bs j => n == m && p == q && sameAll as bs && i == j
  | var n, var m => n == m
  | wildcard u, wildcard v => u == v
  | bounded u s, bounded v t => u == v && same s t
  | array s m, array t n => same s t && m == n
  | _, _ => false

/-- Whether two lists of types are the same. -/
def sameAll : List TypeExpr → List TypeExpr → Bool
  | [], [] => true
  | s :: ss, t :: ts => same s t && sameAll ss ts
  | _, _ => false
end

mutual
/-- Two types are the same only if they are equal. -/
theorem same_iff : ∀ s t : TypeExpr, same s t = true ↔ s = t
  | named _ _ as _, t => by cases t <;> simp [same, sameAll_iff as, and_assoc]
  | var _, t => by cases t <;> simp [same]
  | wildcard _, t => by cases t <;> simp [same]
  | bounded _ s, t => by cases t <;> simp [same, same_iff s]
  | array s _, t => by cases t <;> simp [same, same_iff s]

/-- Two lists of types are the same only if they are equal. -/
theorem sameAll_iff : ∀ ss ts : List TypeExpr, sameAll ss ts = true ↔ ss = ts
  | [], ts => by cases ts <;> simp [sameAll]
  | s :: ss, ts => by cases ts <;> simp [sameAll, same_iff s, sameAll_iff ss]
end

/-- Equality of types is decided by comparing their parts. -/
instance : DecidableEq TypeExpr := fun s t => decidable_of_iff _ (same_iff s t)

/-- The brackets of an array type. -/
def brackets (dimensions : Nat) : String :=
  String.ofList (List.replicate dimensions ['[', ']']).flatten

/-- The word between a wildcard and its bound. -/
def boundWord (upper : Bool) : String := if upper then "? extends " else "? super "

mutual
/-- The type as it is written in a source file. -/
def text : TypeExpr → String
  | named name _ [] _ => name
  | named name _ arguments _ => name ++ "<" ++ ", ".intercalate (texts arguments) ++ ">"
  | var name => name
  | wildcard _ => "?"
  | bounded upper bound => boundWord upper ++ text bound
  | array component dimensions => text component ++ brackets dimensions

/-- The texts of some types. -/
def texts : List TypeExpr → List String
  | [] => []
  | t :: ts => text t :: texts ts
end

/-- A type is shown as it is written. -/
instance : ToString TypeExpr := ⟨text⟩

/-- The type without the type arguments of a named type. -/
def simpleName : TypeExpr → String
  | named name _ _ _ => name
  | array component dimensions => simpleName component ++ brackets dimensions
  | t => text t

end TypeExpr

/-- The name of a type in its package. -/
structure TypeName where
  package : String
  name : String
deriving DecidableEq, Repr

namespace TypeName

/-- The name with its package. -/
def qualified (n : TypeName) : String :=
  if n.package.isEmpty then n.name else n.package ++ "." ++ n.name

/-- The name of the outermost type around a member type, which is what an import names. -/
def outermost (n : TypeName) : String := String.ofList (n.name.toList.takeWhile (· != '.'))

end TypeName

namespace TypeExpr

mutual
/-- The named types with a package that a type mentions, from left to right. -/
def mentions : TypeExpr → List TypeName
  | named name package arguments primitive =>
    if primitive || package.isEmpty then mentionsAll arguments
    else ⟨package, name⟩ :: mentionsAll arguments
  | var _ => []
  | wildcard _ => []
  | bounded _ bound => mentions bound
  | array component _ => mentions component

/-- What the types of a list mention, in turn. -/
def mentionsAll : List TypeExpr → List TypeName
  | [] => []
  | t :: ts => mentions t ++ mentionsAll ts
end

/-- Why a type expression could not be formed. -/
inductive FormError where
  | name (cause : InvalidName)
  | dimensions (given : Int)
deriving DecidableEq, Repr

/-- The message of a fault in the form of a type. -/
def FormError.message : FormError → String
  | .name cause => cause.message
  | .dimensions given => "Array dimensions must be positive: " ++ toString given

/-- Refuses a list of names of which one is no identifier. -/
def requireIdentifiers (role : String) : List String → Except InvalidName Unit
  | [] => .ok ()
  | name :: names =>
    match requireIdentifier role name with
    | .ok () => requireIdentifiers role names
    | .error e => .error e

/-- A named type whose name and package are legal. -/
def reference (name package : String) (arguments : List TypeExpr) : Except FormError TypeExpr :=
  match requireIdentifiers "type name" (dottedParts name), requirePackageName package with
  | .ok (), .ok () => .ok (named name package arguments false)
  | .error e, _ => .error (.name e)
  | .ok (), .error e => .error (.name e)

/-- A primitive type, of which nothing is checked. -/
def primitive (name : String) : TypeExpr := named name "" [] true

/-- The package whose types every file sees. -/
def languagePackage : String := "java.lang"

/-- A type of the package that every file sees. -/
def language (name : String) : TypeExpr := named name languagePackage [] false

/-- A type variable with a legal name. -/
def variableNamed (name : String) : Except FormError TypeExpr :=
  match requireIdentifier "type variable" name with
  | .ok () => .ok (var name)
  | .error e => .error (.name e)

/-- An array type with at least one dimension. -/
def arrayOf (component : TypeExpr) (dimensions : Int) : Except FormError TypeExpr :=
  if 1 ≤ dimensions then .ok (array component dimensions.toNat)
  else .error (.dimensions dimensions)

end TypeExpr

end JavaScribe
