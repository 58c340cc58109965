import JavaScribe.Table
import JavaScribe.Floating.Basic

/-!
# JSON values

Objects keep the order of their keys.  A number without a fraction or an exponent is an integer of
any size; every other number is kept as a floating-point number.

The order matters when a configuration is written back, so equality of objects is equality of
their lists of fields.
-/

set_option autoImplicit false

namespace JavaScribe

/-- A JSON value. -/
inductive Json where
  | null
  | bool (value : Bool)
  | int (value : Int)
  | real (value : Floating)
  | string (value : String)
  | array (items : List Json)
  | object (fields : List (String × Json))
deriving Inhabited

namespace Json

mutual
/-- Whether two values are the same, with fields in the same order. -/
def same : Json → Json → Bool
  | null, null => true
  | bool a, bool b => a == b
  | int a, int b => a == b
  | real a, real b => a == b
  | string a, string b => a == b
  | array a, array b => sameItems a b
  | object a, object b => sameFields a b
  | _, _ => false

/-- Whether two lists of values are the same. -/
def sameItems : List Json → List Json → Bool
  | [], [] => true
  | a :: as, b :: bs => same a b && sameItems as bs
  | _, _ => false

/-- Whether two lists of fields are the same. -/
def sameFields : List (String × Json) → List (String × Json) → Bool
  | [], [] => true
  | (k, a) :: as, (l, b) :: bs => k == l && same a b && sameFields as bs
  | _, _ => false
end

mutual
/-- Two values are the same only if they are equal. -/
theorem same_iff : ∀ a b : Json, same a b = true ↔ a = b
  | null, b => by cases b <;> simp [same]
  | bool _, b => by cases b <;> simp [same]
  | int _, b => by cases b <;> simp [same]
  | real _, b => by cases b <;> simp [same]
  | string _, b => by cases b <;> simp [same]
  | array as, b => by cases b <;> simp [same, sameItems_iff as]
  | object as, b => by cases b <;> simp [same, sameFields_iff as]

/-- Two lists of values are the same only if they are equal. -/
theorem sameItems_iff : ∀ as bs : List Json, sameItems as bs = true ↔ as = bs
  | [], bs => by cases bs <;> simp [sameItems]
  | a :: as, bs => by cases bs <;> simp [sameItems, same_iff a, sameItems_iff as]

/-- Two lists of fields are the same only if they are equal. -/
theorem sameFields_iff : ∀ as bs : List (String × Json), sameFields as bs = true ↔ as = bs
  | [], bs => by cases bs <;> simp [sameFields]
  | (k, a) :: as, bs => by
    cases bs with
    | nil => simp [sameFields]
    | cons b bs => simp [sameFields, same_iff a, sameFields_iff as, Prod.ext_iff]
end

/-- Equality of values is decided by comparing their parts. -/
instance : DecidableEq Json := fun a b => decidable_of_iff _ (same_iff a b)

mutual
/-- How deep the arrays and objects of a value nest. -/
def depth : Json → Nat
  | array items => depthOfItems items + 1
  | object fields => depthOfFields fields + 1
  | _ => 0

/-- How deep the deepest value of a list nests. -/
def depthOfItems : List Json → Nat
  | [] => 0
  | item :: items => max (depth item) (depthOfItems items)

/-- How deep the deepest value of some fields nests. -/
def depthOfFields : List (String × Json) → Nat
  | [] => 0
  | (_, value) :: fields => max (depth value) (depthOfFields fields)
end

/-- Whether a value counts as absent: null, false, zero, or an empty text or collection. -/
def isFalsy : Json → Bool
  | null => true
  | bool b => !b
  | int n => n == 0
  | real x => x.isZero
  | string s => s.isEmpty
  | array items => items.isEmpty
  | object fields => fields.isEmpty

end Json

/-- The fields of an object, in order. -/
abbrev Fields := Table Json

end JavaScribe
