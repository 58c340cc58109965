import JavaScribe.TypeExpr.Annotation
import JavaScribe.Modifier.Basic
import JavaScribe.Category

/-!
# Options of a member

Beside its name and types, a member is declared with options that all kinds of members share.  A
set of options can be kept and used for many members, each of which may override some of them.
-/

set_option autoImplicit false

namespace JavaScribe

/-- What can be said of any member when it is declared. -/
structure MemberOptions where
  modifiers : ModifierSet := .empty
  /-- The tag of the category, as it was given. -/
  category : String := ""
  since : String := ""
  throws : List String := []
  see : List String := []
  typeParameters : List TypeParameter := []
  annotations : List Annotation := []
  /-- Whether overloads stay in the order in which they are declared. -/
  preserveOrder : Bool := true
deriving DecidableEq

/-- Options of which each may be left as it is. -/
structure MemberOverrides where
  modifiers : Option ModifierSet := none
  category : Option String := none
  since : Option String := none
  throws : Option (List String) := none
  see : Option (List String) := none
  typeParameters : Option (List TypeParameter) := none
  annotations : Option (List Annotation) := none
  preserveOrder : Option Bool := none

namespace MemberOptions

/-- The options with some of them replaced. -/
def override (o : MemberOptions) (r : MemberOverrides) : MemberOptions where
  modifiers := r.modifiers.getD o.modifiers
  category := r.category.getD o.category
  since := r.since.getD o.since
  throws := r.throws.getD o.throws
  see := r.see.getD o.see
  typeParameters := r.typeParameters.getD o.typeParameters
  annotations := r.annotations.getD o.annotations
  preserveOrder := r.preserveOrder.getD o.preserveOrder

/-- Refuses options whose category is not one. -/
def checked (o : MemberOptions) : Except CategoryError MemberOptions :=
  match Category.parse o.category with
  | .ok _ => .ok o
  | .error e => .error e

/-- The types that the options mention, those in bounds first. -/
def mentions (o : MemberOptions) : List TypeName :=
  o.typeParameters.flatMap TypeParameter.mentions ++ o.annotations.flatMap Annotation.mentions

end MemberOptions

end JavaScribe
