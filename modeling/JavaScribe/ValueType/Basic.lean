import JavaScribe.TypeExpr.Basic

/-!
# Value types

A value type is a primitive type for which a family of types is generated, with the names and the
literal that the members of the family are made from.
-/

set_option autoImplicit false

namespace JavaScribe

/-- A value type. -/
structure ValueType where
  name : String
  /-- The part of a generated name that stands for the type. -/
  abbreviatedName : String
  /-- The name of the class that boxes a value. -/
  boxedTypeName : String
  /-- The literal of the default value. -/
  nullValue : String
deriving DecidableEq, Repr

namespace ValueType

/-- The type that source text uses for the value type. -/
def type (v : ValueType) : TypeExpr := .primitive v.name

/-- The class that boxes a value, if its name is legal. -/
def boxedType (v : ValueType) : Except TypeExpr.FormError TypeExpr :=
  TypeExpr.reference v.boxedTypeName TypeExpr.languagePackage []

end ValueType

end JavaScribe
