import JavaScribe.Member.Basic

/-!
# The canonical order of members

Members are written in an order that does not depend on the order in which they were declared:
by the tag of their category; fields, then constructors, then methods, then nested types; by name.
Overloads that give up the order of declaration stand before the others and are ordered by the
simple names of their parameter types.  What is still equal keeps the order of declaration.
-/

set_option autoImplicit false

namespace JavaScribe

/-- By what members are ordered. -/
structure MemberKey where
  tag : String
  weight : Nat
  name : String
  /-- One for overloads that keep the order of declaration, zero for all other members. -/
  rank : Nat
  parameterNames : List String
deriving DecidableEq, Repr

namespace MemberKey

/-- The parts of a key count in turn. -/
def order : MemberKey → MemberKey → Ordering :=
  compareLex (compareOn tag)
    (compareLex (compareOn weight)
      (compareLex (compareOn name)
        (compareLex (compareOn rank) (compareOn parameterNames))))

/-- Whether a key comes no later than another one. -/
def precedes (a b : MemberKey) : Bool := (order a b).isLE

end MemberKey

namespace Executable

/-- The place of constructors and methods among the kinds of members. -/
def weight (e : Executable) : Nat :=
  match e.form with
  | .constructor => 1
  | .method .. => 2

/-- What a constructor or method is ordered by; overloads come in the order of their parameters,
unless they are to stay as they were declared. -/
def key (e : Executable) : MemberKey :=
  -- overloads that stay as declared have nothing to compare, and come after the others
  if e.options.preserveOrder then ⟨e.category.tag, e.weight, e.name, 1, []⟩
  else ⟨e.category.tag, e.weight, e.name, 0, e.parameters.map fun p => p.type.simpleName⟩

end Executable

namespace Member

/-- By what the member is ordered. -/
def key : Member → MemberKey
  | .field f => ⟨f.category.tag, 0, f.name, 0, []⟩
  | .executable e => e.key
  | .type header _ _ => ⟨header.category.tag, 3, header.name, 0, []⟩

/-- The members in canonical order. -/
def inOrder (ms : List Member) : List Member := ms.mergeSort fun a b => a.key.precedes b.key

end Member

end JavaScribe
