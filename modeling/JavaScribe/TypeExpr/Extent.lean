import JavaScribe.TypeExpr.Annotation
import JavaScribe.Text.Extent

/-!
# The extent of types

An array may have more dimensions than can be written out.  Such a type can still be declared,
compared and imported; only its text does not exist.  What is met first in the order of writing is
what keeps a text from being written.
-/

set_option autoImplicit false

namespace JavaScribe

namespace TypeExpr

mutual
/-- What keeps a type from being written out: the brackets of an array, which follow its component,
or what keeps a part from being written. -/
def oversize? (l : Text.Limits) : TypeExpr → Option Text.Oversize
  | named _ _ arguments _ => oversizeAny? l arguments
  | var _ => none
  | wildcard _ => none
  | bounded _ bound => oversize? l bound
  | array component dimensions =>
    (oversize? l component).or (Text.oversize? l "[]".length dimensions)

/-- What keeps a list of types from being written out. -/
def oversizeAny? (l : Text.Limits) : List TypeExpr → Option Text.Oversize
  | [] => none
  | t :: ts => (oversize? l t).or (oversizeAny? l ts)
end

mutual
/-- Without limits, every type can be written out. -/
theorem oversize?_unlimited : ∀ t : TypeExpr, t.oversize? .unlimited = none
  | .named _ _ arguments _ => oversizeAny?_unlimited arguments
  | .var _ => rfl
  | .wildcard _ => rfl
  | .bounded _ bound => oversize?_unlimited bound
  | .array component _ => by
    rw [oversize?, oversize?_unlimited component, Text.oversize?_unlimited, Option.or_none]

/-- Without limits, every list of types can be written out. -/
theorem oversizeAny?_unlimited : ∀ ts : List TypeExpr, oversizeAny? .unlimited ts = none
  | [] => rfl
  | t :: ts => by
    rw [oversizeAny?, oversize?_unlimited t, oversizeAny?_unlimited ts, Option.or_none]
end

end TypeExpr

/-- What keeps an annotation from being written out; its parameters are a text already. -/
def Annotation.oversize? (l : Text.Limits) (a : Annotation) : Option Text.Oversize :=
  a.type.oversize? l

/-- What keeps a parameter from being written out; its annotations stand in front. -/
def Parameter.oversize? (l : Text.Limits) (p : Parameter) : Option Text.Oversize :=
  (p.annotations.findSome? fun a => a.oversize? l).or (p.type.oversize? l)

/-- What keeps the signature of some parameters from being written out. -/
def signatureOversize? (l : Text.Limits) (ps : List Parameter) : Option Text.Oversize :=
  TypeExpr.oversizeAny? l (ps.map Parameter.type)

/-- What keeps a type parameter from being written out. -/
def TypeParameter.oversize? (l : Text.Limits) (p : TypeParameter) : Option Text.Oversize :=
  TypeExpr.oversizeAny? l p.bounds

end JavaScribe
