/-!
# The extent of texts

Texts of any length can be reasoned about, but a machine that writes them out has only so many
indices to count characters with, and only so much memory to hold them.  How much that is belongs
to the machine and not to the texts, so it is a parameter (`Text.Limits`), and there need not be any
limit (`Text.Limits.unlimited`).
-/

set_option autoImplicit false

namespace JavaScribe.Text

/-- Why a text cannot be written out. -/
inductive Oversize where
  /-- It has more characters than an index counts. -/
  | uncountable
  /-- It does not fit into memory. -/
  | unstorable
deriving DecidableEq, Repr

/-- What a machine that writes texts out is limited to; what is absent is not limited. -/
structure Limits where
  /-- The greatest index. -/
  index : Option Int
  /-- The greatest number of characters that memory has room for. -/
  memory : Option Int
deriving DecidableEq, Repr

/-- The limits of a machine that has none. -/
def Limits.unlimited : Limits := ⟨none, none⟩

/-- What keeps a text of the given length from being written out as often as asked for.  A number
of times that is no index is refused even if it is negative. -/
def oversize? (l : Limits) (length : Nat) (times : Int) : Option Oversize :=
  if l.index.any fun i => times < -i - 1 || i < times || i < length * times then some .uncountable
  else if l.memory.any fun m => m < length * times then some .unstorable
  else none

/-- Without limits, every text can be written out. -/
@[simp] theorem oversize?_unlimited (length : Nat) (times : Int) :
    oversize? .unlimited length times = none := rfl

end JavaScribe.Text
