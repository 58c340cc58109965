import JavaScribe.Proofs.Sections

/-!
# Categories read from tags again

A member keeps the category that its tag was read as, and this is what a type is written with.  It
could as well be written from the tags alone, with every category read again where its section
begins, at every depth.  This would fail at a tag that is malformed or has too long a numeral; but
the tags of members were read when these were declared, so it never does, and what is written is the
same (`TypeDecl.linesByTag_eq`).
-/

set_option autoImplicit false

namespace JavaScribe

namespace Block

/-- The lines of blocks in order, with the category of each section read from its tag. -/
def sectionLinesByTag (style : Style) (indent : String) :
    (previous : String) → (afterBlank : Bool) → List Block → Except CategoryError (List String)
  | _, _, [] => .ok []
  | previous, afterBlank, b :: bs => do
    let opening ←
      if b.category.tag = previous then pure []
      else do
        let category ← Category.parse b.category.tag
        pure (sectionOpening style indent category afterBlank)
    let rest ← sectionLinesByTag style indent b.category.tag b.endsBlank bs
    return opening ++ b.lines ++ rest

/-- The lines of a type whose members are written as the given blocks, with categories read from
tags. -/
def typeLinesByTag (style : Style) (indent : String) (h : TypeHeader) (bs : List Block) :
    Except CategoryError (List String) := do
  let body ←
    match bs with
    | [] => pure [indent ++ h.declaration ++ " \x7b\x7d"]
    | bs => do
      let sections ← sectionLinesByTag style (indent ++ style.indentUnit) "" true (inOrder bs)
      pure ((indent ++ h.declaration ++ " \x7b") :: "" :: sections ++ [indent ++ "\x7d"])
  return h.preamble indent ++ body

end Block

namespace Member

mutual
/-- A member as it is written at an indentation, with categories read from tags. -/
def blockByTag (style : Style) (indent : String) : Member → Except CategoryError Block
  | .field f => .ok (block style indent (.field f))
  | .executable e => .ok (block style indent (.executable e))
  | .type header identities members => do
    let inner ← blocksByTag style (indent ++ style.indentUnit) members
    let lines ← Block.typeLinesByTag style indent header inner
    return ⟨key (.type header identities members), header.category, lines ++ [""], true⟩

/-- The blocks of the members of a list, where the tags of categories are read again. -/
def blocksByTag (style : Style) (indent : String) : List Member → Except CategoryError (List Block)
  | [] => .ok []
  | m :: ms => do
    let first ← blockByTag style indent m
    let rest ← blocksByTag style indent ms
    return first :: rest
end

end Member

/-- The lines of a type with the category of each section read from its tag. -/
def TypeDecl.linesByTag (style : Style) (indent : String) (t : TypeDecl) :
    Except CategoryError (List String) := do
  let blocks ← Member.blocksByTag style (indent ++ style.indentUnit) t.members
  Block.typeLinesByTag style indent t.header blocks

namespace Block

/-- Whether the category of a block is what its tag is read as. -/
def KeepsCategory (b : Block) : Prop := Category.parse b.category.tag = .ok b.category

/-- If all blocks keep their categories, reading the tags again gives the same sections. -/
theorem sectionLinesByTag_eq (style : Style) (indent previous : String) (afterBlank : Bool)
    {bs : List Block} (h : ∀ b ∈ bs, b.KeepsCategory) :
    sectionLinesByTag style indent previous afterBlank bs =
      .ok (sectionLines style indent previous afterBlank bs) := by
  induction bs generalizing previous afterBlank with
  | nil => rfl
  | cons b bs ih =>
    have hparse : Category.parse b.category.tag = .ok b.category := h b List.mem_cons_self
    have hrest := ih b.category.tag b.endsBlank fun c hc => h c (List.mem_cons_of_mem b hc)
    rw [sectionLinesByTag, sectionLines, hrest, hparse]
    split <;> rfl

/-- If all blocks keep their categories, reading the tags again gives the same lines of a type. -/
theorem typeLinesByTag_eq (style : Style) (indent : String) (header : TypeHeader)
    {bs : List Block} (h : ∀ b ∈ bs, b.KeepsCategory) :
    typeLinesByTag style indent header bs = .ok (typeLines style indent header bs) := by
  cases bs with
  | nil => rfl
  | cons b bs =>
    have hsorted : ∀ c ∈ inOrder (b :: bs), c.KeepsCategory :=
      fun c hc => h c ((List.mergeSort_perm (b :: bs) _).mem_iff.mp hc)
    have hsections := sectionLinesByTag_eq style (indent ++ style.indentUnit) "" true hsorted
    unfold typeLinesByTag typeLines
    simp only [hsections]
    rfl

end Block

/-- If the members of a type keep their categories, so do their blocks. -/
theorem TypeDecl.KeepsCategories.blocks {t : TypeDecl} (ht : t.KeepsCategories) (style : Style)
    (indent : String) : ∀ b ∈ Member.blocks style indent t.members, b.KeepsCategory := by
  intro b hb
  obtain ⟨m, hm, rfl⟩ := Member.mem_blocks_iff.mp hb
  rw [Block.KeepsCategory, Member.block_category]
  exact ht m hm

namespace Member

mutual
/-- If all types in a member keep their categories, reading the tags again gives the same block. -/
theorem blockByTag_eq (style : Style) (indent : String) : ∀ m : Member,
    m.Everywhere TypeDecl.KeepsCategories → m.blockByTag style indent = .ok (m.block style indent)
  | .field _, _ => rfl
  | .executable _, _ => rfl
  | .type header identities members, h => by
    obtain ⟨hkeeps, hmembers⟩ := h
    have hinner := blocksByTag_eq style (indent ++ style.indentUnit) members hmembers
    have hlines := Block.typeLinesByTag_eq style indent header
      (hkeeps.blocks style (indent ++ style.indentUnit))
    rw [blockByTag, hinner]
    show (Block.typeLinesByTag style indent header _ >>= _) = _
    rw [hlines]
    rfl

/-- If all types in some members keep their categories, reading the tags again gives the same
blocks. -/
theorem blocksByTag_eq (style : Style) (indent : String) : ∀ ms : List Member,
    EverywhereIn TypeDecl.KeepsCategories ms →
      blocksByTag style indent ms = .ok (blocks style indent ms)
  | [], _ => rfl
  | m :: ms, h => by
    have hfirst := blockByTag_eq style indent m h.1
    have hrest := blocksByTag_eq style indent ms h.2
    rw [blocksByTag, hfirst, hrest]
    rfl
end

end Member

/-- If all tags in a tree are read as the categories that are kept, reading them again changes
nothing of the text. -/
theorem TypeDecl.linesByTag_eq {t : TypeDecl} (ht : t.Everywhere KeepsCategories) (style : Style)
    (indent : String) : t.linesByTag style indent = .ok (t.lines style indent) := by
  have hmembers := (Member.everywhereIn_iff KeepsCategories t.members).mpr ht.2
  have hblocks := Member.blocksByTag_eq style (indent ++ style.indentUnit) t.members hmembers
  rw [linesByTag, hblocks]
  exact Block.typeLinesByTag_eq style indent t.header (ht.1.blocks style _)

end JavaScribe
