/-!
# Modifiers

The keywords that can stand before a declaration, in the order in which a source file writes them,
and the sets of them that a caller asks for.  A request is a number whose bits are numbered as in
class files.  The keyword `default` has no bit: it is written where a method of an interface has a
body, and is never asked for.
-/

set_option autoImplicit false

namespace JavaScribe

/-- A keyword that can stand before a declaration. -/
inductive Modifier where
  | publicAccess
  | protectedAccess
  | privateAccess
  | abstract
  | static
  | final
  | transient
  | volatile
  | default
  | synchronized
  | native
  | strictfp
  | interface
deriving DecidableEq, Repr

namespace Modifier

/-- Every modifier, in the order in which they are written. -/
def canonicalOrder : List Modifier :=
  [.publicAccess, .protectedAccess, .privateAccess, .abstract, .static, .final, .transient,
    .volatile, .default, .synchronized, .native, .strictfp, .interface]

/-- The keyword of a modifier. -/
def word : Modifier → String
  | .publicAccess => "public"
  | .protectedAccess => "protected"
  | .privateAccess => "private"
  | .abstract => "abstract"
  | .static => "static"
  | .final => "final"
  | .transient => "transient"
  | .volatile => "volatile"
  | .default => "default"
  | .synchronized => "synchronized"
  | .native => "native"
  | .strictfp => "strictfp"
  | .interface => "interface"

/-- The number of the bit that asks for the modifier. -/
def bit? : Modifier → Option Nat
  | .publicAccess => some 0
  | .privateAccess => some 1
  | .protectedAccess => some 2
  | .static => some 3
  | .final => some 4
  | .synchronized => some 5
  | .volatile => some 6
  | .transient => some 7
  | .native => some 8
  | .interface => some 9
  | .abstract => some 10
  | .strictfp => some 11
  | .default => none

/-- The modifiers that say who may use a declaration. -/
def access : List Modifier := [.publicAccess, .protectedAccess, .privateAccess]

end Modifier

/-- The modifiers as they are written before a declaration. -/
def modifierText (ms : List Modifier) : String := " ".intercalate (ms.map Modifier.word)

/-- The modifiers that a caller asks for, as a number.  Bits that belong to no modifier are kept
and have no effect. -/
structure ModifierSet where
  bits : Nat
deriving DecidableEq, Repr, Inhabited

namespace ModifierSet

/-- No modifiers. -/
def empty : ModifierSet := ⟨0⟩

/-- The number of binary digits of a number; zero has none. -/
def bitLength (n : Nat) : Nat := if n = 0 then 0 else n.log2 + 1

/-- The set that a number asks for.  A negative number counts down from the first power of two
that is at least `2 ^ 12` and holds its magnitude. -/
def ofInt : Int → ModifierSet
  | .ofNat n => ⟨n⟩
  | .negSucc n => if n < 4096 then ⟨4096 - (n + 1)⟩ else ⟨Nat.pow 2 (bitLength (n + 1)) - (n + 1)⟩

/-- Whether a modifier is in the set; `default` never is, since it has no bit. -/
def has (s : ModifierSet) (m : Modifier) : Bool :=
  match m.bit? with
  | some k => s.bits.testBit k
  | none => false

end ModifierSet

end JavaScribe
