import JavaScribe.TypeExpr.Basic

/-!
# Annotations and parameters

The parts of a declaration that are built from type expressions: annotations, the parameters of a
method or constructor, and declared type parameters with their bounds.
-/

set_option autoImplicit false

namespace JavaScribe

/-- The use of an annotation, with the text of its parameters. -/
structure Annotation where
  type : TypeExpr
  parameters : String
deriving DecidableEq

namespace Annotation

/-- The annotation as it is written, with its parameters in parentheses if it has any. -/
def text (a : Annotation) : String :=
  if a.parameters.isEmpty then "@" ++ a.type.text
  else "@" ++ a.type.text ++ "(" ++ a.parameters ++ ")"

/-- The types that the annotation mentions. -/
def mentions (a : Annotation) : List TypeName := a.type.mentions

/-- The name of the annotation, which only a named type and a type variable give it. -/
def name? (a : Annotation) : Option String :=
  match a.type with
  | .named name _ _ _ => some name
  | .var name => some name
  | _ => none

/-- Whether the annotation marks a method that takes the place of an inherited one. -/
def isOverride (a : Annotation) : Bool := a.name? == some "Override"

end Annotation

/-- A parameter of a constructor or method. -/
structure Parameter where
  type : TypeExpr
  name : String
  documentation : String
  annotations : List Annotation
deriving DecidableEq

namespace Parameter

/-- A parameter with a legal name. -/
def declare (type : TypeExpr) (name documentation : String) (annotations : List Annotation) :
    Except InvalidName Parameter :=
  match requireIdentifier "parameter name" name with
  | .ok () => .ok ⟨type, name, documentation, annotations⟩
  | .error e => .error e

/-- The parameter as it is declared: its annotations, its type and its name. -/
def text (p : Parameter) : String :=
  " ".intercalate (p.annotations.map Annotation.text ++ [p.type.text, p.name])

/-- The types that the parameter mentions, its own type first. -/
def mentions (p : Parameter) : List TypeName :=
  p.type.mentions ++ p.annotations.flatMap Annotation.mentions

end Parameter

/-- A type parameter with the bounds of what may be put for it. -/
structure TypeParameter where
  name : String
  documentation : String
  bounds : List TypeExpr
deriving DecidableEq

namespace TypeParameter

/-- A type parameter with a legal name. -/
def declare (name documentation : String) (bounds : List TypeExpr) :
    Except InvalidName TypeParameter :=
  match requireIdentifier "type parameter" name with
  | .ok () => .ok ⟨name, documentation, bounds⟩
  | .error e => .error e

/-- The type parameter as it is declared: its name and its bounds, if it has any. -/
def text (p : TypeParameter) : String :=
  if p.bounds.isEmpty then p.name
  else p.name ++ " extends " ++ " & ".intercalate (TypeExpr.texts p.bounds)

/-- The type variable that the parameter introduces. -/
def variableType (p : TypeParameter) : TypeExpr := .var p.name

/-- The types that the bounds mention. -/
def mentions (p : TypeParameter) : List TypeName := TypeExpr.mentionsAll p.bounds

end TypeParameter

/-- The type parameters of a declaration in angle brackets, or nothing if there are none. -/
def typeParameterList (ps : List TypeParameter) : String :=
  if ps.isEmpty then "" else "<" ++ ", ".intercalate (ps.map TypeParameter.text) ++ ">"

end JavaScribe
