import JavaScribe.Layout.Declaration
import JavaScribe.Proofs.StableSort

/-!
# The canonical order

Members come in the order of their keys, and members with one key in the order in which they were
declared.  The tag of the category is the first part of the key, so members of one category stand
together (`inOrder_eq_flatMap_tag`), and the order of keys tells different keys apart.

Blocks, the members as they are written, are put in order by the same keys.  It makes no difference
whether members are first written and then put in order, or the other way round
(`inOrder_blocks`).
-/

set_option autoImplicit false

namespace JavaScribe

open Std (TransCmp LawfulEqCmp)

namespace MemberKey

/-- The order of keys is transitive, since it compares one part after the other. -/
instance : TransCmp order := by unfold order; infer_instance

/-- Only equal keys are equal in the order of keys. -/
instance : LawfulEqCmp order where
  eq_of_compare {a b} h := by
    simp only [order, compareLex_eq_eq, compareOn, Std.compare_eq_iff_eq] at h
    obtain ⟨htag, hweight, hname, hrank, hparameters⟩ := h
    cases a
    cases b
    simp_all

/-- Keys are ordered by their tags in the first place. -/
theorem tag_isLE_of_precedes {a b : MemberKey} (h : a.precedes b = true) :
    (compare a.tag b.tag).isLE = true := by
  simp only [precedes, order, compareLex, compareOn, Ordering.isLE_then_iff_and] at h
  exact h.1

end MemberKey

namespace Member

/-- The tag of the category of a member. -/
def tag (m : Member) : String := m.category.tag

/-- The key of a member starts with the tag of its category. -/
theorem key_tag (m : Member) : m.key.tag = m.tag := by
  cases m with
  | field => rfl
  | executable e =>
    simp only [key, Executable.key, tag, category]
    split <;> rfl
  | type => rfl

/-- Members in canonical order are the members. -/
theorem inOrder_perm (ms : List Member) : (inOrder ms).Perm ms := List.mergeSort_perm ms _

/-- Members in canonical order are in the order of the tags of their categories. -/
theorem pairwise_tag_inOrder (ms : List Member) :
    (inOrder ms).Pairwise fun a b => (compare a.tag b.tag).isLE = true := by
  refine (StableSort.pairwise_mergeSort MemberKey.order key ms).imp fun {a b} h => ?_
  rw [← key_tag, ← key_tag]
  exact MemberKey.tag_isLE_of_precedes h

/-- Members in canonical order fall into their categories, in the order of the tags. -/
theorem inOrder_eq_flatMap_tag (ms : List Member) {tags : List String}
    (htags : tags.Pairwise fun s t => compare s t = .lt) (hcover : ∀ m ∈ ms, m.tag ∈ tags) :
    inOrder ms = tags.flatMap fun t => (inOrder ms).filter fun m => decide (m.tag = t) :=
  StableSort.eq_flatMap_filter compare tag (pairwise_tag_inOrder ms) htags
    fun m hm => hcover m ((inOrder_perm ms).mem_iff.mp hm)

/-- The canonical order depends only on the order of the members with one key. -/
theorem inOrder_eq_of_filter_key_eq {ms ms' : List Member}
    (h : ∀ k, ms.filter (fun m => decide (m.key = k)) = ms'.filter fun m => decide (m.key = k)) :
    inOrder ms = inOrder ms' :=
  StableSort.mergeSort_eq_of_filter_eq MemberKey.order key h

/-- Members may be put in order before or after they are turned into something that has their
keys. -/
theorem mergeSort_map_eq {β : Type} (keyOf : β → MemberKey) (f : Member → β)
    (hf : ∀ m, keyOf (f m) = m.key) (ms : List Member) :
    ((ms.map f).mergeSort fun a b => (keyOf a).precedes (keyOf b)) = (inOrder ms).map f := by
  unfold inOrder
  refine (List.map_mergeSort fun a _ b _ => ?_).symm
  rw [hf, hf]

/-- The block of a member is ordered like the member. -/
theorem block_key (style : Style) (indent : String) (m : Member) :
    (m.block style indent).key = m.key := by
  cases m <;> rfl

/-- The block of a member has the category of the member. -/
theorem block_category (style : Style) (indent : String) (m : Member) :
    (m.block style indent).category = m.category := by
  cases m <;> rfl

/-- The blocks of a list are made one by one. -/
theorem blocks_eq_map (style : Style) (indent : String) (ms : List Member) :
    blocks style indent ms = ms.map (block style indent) := by
  induction ms with
  | nil => rfl
  | cons m ms ih => rw [blocks, ih, List.map_cons]

/-- The blocks of a list are those of its members. -/
theorem mem_blocks_iff {style : Style} {indent : String} {ms : List Member} {b : Block} :
    b ∈ blocks style indent ms ↔ ∃ m ∈ ms, m.block style indent = b := by
  rw [blocks_eq_map, List.mem_map]

/-- Members may be put in order before or after they are written. -/
theorem inOrder_blocks (style : Style) (indent : String) (ms : List Member) :
    Block.inOrder (blocks style indent ms) = (inOrder ms).map (block style indent) := by
  rw [blocks_eq_map]
  exact mergeSort_map_eq Block.key (block style indent) (block_key style indent) ms

end Member

end JavaScribe
