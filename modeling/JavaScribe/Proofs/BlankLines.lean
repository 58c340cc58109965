import JavaScribe.Proofs.ImportGroups
import JavaScribe.Proofs.IndentedTypes

/-!
# Blank lines

Blank lines come from many sides: a type opens with one, a new category is set apart by one, a
banner has one on either side, and a constructor, a method or a nested type ends with one.  Still
there are never two in a row, and neither the first nor the last line of a type is blank
(`Session.lines_spaced`).  Only a body can bring blank lines of its own.

A member that ends with a blank line says so, and whatever comes next leaves out its own.  So a
member is spaced lines and perhaps one blank line after them (`Block.IsSpaced`), and lines that are
spaced stay so when the next member is put behind them (`Block.isSpaced_sectionLines`).
-/

set_option autoImplicit false

namespace JavaScribe

open Text
open Sections (isBlankLine)

namespace Text

/-! ## Lines that are spaced -/

section Spaced

variable {ls ls' : List String}

/-- A line with a character that is not blank is no blank line. -/
theorem isBlankLine_eq_false {c : Char} {l : String} (hc : c ∈ l.toList) (h : isBlank c = false) :
    isBlankLine l = false :=
  List.all_eq_false.mpr ⟨c, hc, by rw [h]; exact Bool.false_ne_true⟩

/-- Lines are well spaced if none of them is blank. -/
theorem isSpaced_of_forall (h : ∀ l ∈ ls, isBlankLine l = false) : IsSpaced ls := by
  induction ls with
  | nil => exact isSpaced_nil
  | cons l ls ih =>
    obtain ⟨hl, hls⟩ := List.forall_mem_cons.mp h
    exact (ih hls).cons hl

/-- Well-spaced lines after well-spaced lines are well spaced. -/
theorem IsSpaced.append (h : IsSpaced ls) (h' : IsSpaced ls') : IsSpaced (ls ++ ls') where
  first := by
    cases ls with
    | nil => exact h'.first
    | cons l ls => exact h.first
  last := by
    intro l hl
    rw [List.getLast?_append] at hl
    rcases Option.or_eq_some_iff.mp hl with hl | ⟨-, hl⟩
    · exact h'.last l hl
    · exact h.last l hl
  inner := by
    refine List.isChain_append.mpr ⟨h.inner, h'.inner, fun l hl l' _ hboth => ?_⟩
    rw [h.last l hl] at hboth
    exact Bool.false_ne_true hboth.1

/-- One blank line may come between lines that are spaced. -/
theorem IsSpaced.append_blank (h : IsSpaced ls) (h' : IsSpaced ls') (hne : ls ≠ [])
    (hne' : ls' ≠ []) : IsSpaced (ls ++ "" :: ls') where
  first := by
    obtain ⟨l, ls, rfl⟩ := List.exists_cons_of_ne_nil hne
    exact h.first
  last := by
    obtain ⟨l', ls', rfl⟩ := List.exists_cons_of_ne_nil hne'
    rw [List.getLast?_append_cons, List.getLast?_cons_cons]
    exact h'.last
  inner := by
    refine List.isChain_append.mpr ⟨h.inner, h'.inner.cons fun l' hl' hboth => ?_,
      fun l hl l' _ hboth => ?_⟩
    · rw [h'.first l' hl'] at hboth
      exact Bool.false_ne_true hboth.2
    · rw [h.last l hl] at hboth
      exact Bool.false_ne_true hboth.1

end Spaced

/-! ## Bodies -/

/-- A line of a body is blank at its place just if it was blank before. -/
theorem all_isBlank_placedLine (indent l : List Char) :
    (placedLine indent l).all isBlank = l.all isBlank := by
  cases hl : l.all isBlank with
  | true => rw [placedLine_of_all _ hl, List.all_nil]
  | false => rw [placedLine_of_not_all _ hl, List.all_append, all_trimEnd, hl, Bool.and_false]

/-- Which lines of a body are blank does not depend on its indentation. -/
theorem map_isBlankLine_bodyLines (indent body : String) :
    (bodyLines indent body).map isBlankLine =
      (trimBlankLines (splitLines body.toList)).map fun l => l.all isBlank := by
  rw [bodyLines, dedentLines, List.map_map, List.map_map]
  apply List.map_congr_left
  intro l hl
  simp only [Function.comp, isBlankLine, String.toList_ofList, all_isBlank_placedLine,
    all_isBlank_dropMargin hl]

/-- A body has no blank line at either end, so it is spaced if no two blank lines come together. -/
theorem isSpaced_bodyLines (indent : String) {body : String}
    (hbody : (bodyLines "" body).IsChain fun l l' =>
      ¬(isBlankLine l = true ∧ isBlankLine l' = true)) : IsSpaced (bodyLines indent body) := by
  have hblank := map_isBlankLine_bodyLines indent body
  have htrimmed := isTrimmed_trimBlankLines (splitLines body.toList)
  constructor
  case first =>
    intro l hl
    have hfirst := congrArg List.head? hblank
    rw [List.head?_map, List.head?_map, hl, Option.map_some] at hfirst
    obtain ⟨cs, hcs, hsame⟩ := Option.map_eq_some_iff.mp hfirst.symm
    rw [← hsame, htrimmed.first cs hcs]
  case last =>
    intro l hl
    have hlast := congrArg List.getLast? hblank
    rw [List.getLast?_map, List.getLast?_map, hl, Option.map_some] at hlast
    obtain ⟨cs, hcs, hsame⟩ := Option.map_eq_some_iff.mp hlast.symm
    rw [← hsame, htrimmed.last cs hcs]
  case inner =>
    have hsame := hblank.trans (map_isBlankLine_bodyLines "" body).symm
    rw [← List.isChain_map (R := fun a b => ¬(a = true ∧ b = true)) isBlankLine] at hbody ⊢
    rwa [hsame]

end Text

/-! ## Lines that are not blank -/

/-- Every line of a comment holds a star. -/
theorem Javadoc.star_mem_of_mem_layout {indent : String} {text : List String}
    {groups : List (List String)} : ∀ line ∈ layout indent text groups, '*' ∈ line.toList := by
  obtain ⟨-, -, hlayout⟩ | ⟨line, -, -, hlayout⟩ | ⟨-, hlayout⟩ := layout_cases indent text groups
  · simp [hlayout]
  · simp [hlayout]
  · rw [hlayout, blockLines, List.cons_append, List.forall_mem_cons, List.forall_mem_append,
      List.forall_mem_map]
    refine ⟨by simp, fun line _ => ?_, by simp⟩
    have hframe := framed_prefix indent line
    exact hframe.mem (by simp)

/-- No line in front of a declaration is blank. -/
theorem isBlankLine_of_mem_headLines {indent : String} (documentation : String)
    {tags : Javadoc.Tags} (as : List Annotation) (hindent : '\n' ∉ indent.toList)
    (htags : ∀ line ∈ tags.groups.flatten, '\n' ∉ line.toList) :
    ∀ line ∈ headLines indent documentation tags as, isBlankLine line = false := by
  rw [headLines, Javadoc.commentLines_eq hindent htags, List.forall_mem_append]
  constructor
  · intro line hline
    exact isBlankLine_eq_false (Javadoc.star_mem_of_mem_layout line hline) (by decide)
  · intro line hline
    obtain ⟨a, -, rfl⟩ := List.mem_map.mp hline
    have hsign : '@' ∈ (indent ++ a.text).toList := by
      unfold Annotation.text
      split <;> simp
    exact isBlankLine_eq_false hsign (by decide)

/-- No line of a banner is blank. -/
theorem Style.isBlankLine_of_mem_banner {style : Style} {title indent : String} :
    ∀ line ∈ style.banner title indent, isBlankLine line = false := by
  intro line hline
  have hslash : '/' ∈ line.toList := by
    simp only [banner, bannerRule, bannerCaption, List.mem_cons, List.not_mem_nil,
      or_false] at hline
    rcases hline with rfl | rfl | rfl <;> simp
  exact isBlankLine_eq_false hslash (by decide)

/-! ## Members -/

namespace Block

/-- Whether a block is spaced lines, with one blank line behind them if it says so. -/
def IsSpaced (b : Block) : Prop :=
  ∃ ls, ls ≠ [] ∧ Text.IsSpaced ls ∧ b.lines = ls ++ if b.endsBlank then [""] else []

end Block

/-- Whether the body of a constructor or method has no two blank lines in a row. -/
def Executable.HasSpacedBody (e : Executable) : Prop :=
  ∀ body ∈ e.body, (bodyLines "" body).IsChain fun l l' =>
    ¬(isBlankLine l = true ∧ isBlankLine l' = true)

/-- A constructor or method whose body is well spaced is so itself. -/
theorem Executable.HasSpacedBody.isSpaced_implementation {e : Executable} (h : e.HasSpacedBody)
    (style : Style) (indent : String) : Text.IsSpaced (e.implementation style indent) := by
  have hline (ending : String) {c : Char} (hc : c ∈ ending.toList) (hblank : isBlank c = false) :
      Text.IsSpaced [indent ++ e.declaration ++ ending] :=
    isSpaced_singleton (isBlankLine_eq_false (by simp [hc]) hblank)
  unfold implementation
  split
  · exact hline ";" (c := ';') (by decide) (by decide)
  · next body hbody =>
    have hbodyLines := isSpaced_bodyLines (indent ++ style.indentUnit) (h body hbody)
    split
    · exact hline " \x7b\x7d" (c := '\x7b') (by decide) (by decide)
    · have hclose : isBlankLine (indent ++ "\x7d") = false :=
        isBlankLine_eq_false (c := '\x7d') (by simp) (by decide)
      have hopen := hline " \x7b" (c := '\x7b') (by decide) (by decide)
      exact (hopen.append hbodyLines).append (isSpaced_singleton hclose)

section Members

variable {style : Style} {indent : String} (hindent : '\n' ∉ indent.toList)

include hindent

/-- The lines of a field are well spaced. -/
theorem Field.IsUnbroken.isSpaced_block {f : Field} (h : f.IsUnbroken) :
    ((Member.field f).block style indent).IsSpaced := by
  have hhead := isBlankLine_of_mem_headLines f.documentation f.options.annotations hindent
    h.newline_not_mem_of_mem_tags
  have hline : isBlankLine (indent ++ f.declaration ++ ";") = false :=
    isBlankLine_eq_false (c := ';') (by simp) (by decide)
  exact ⟨f.lines indent, by simp [Field.lines],
    (isSpaced_of_forall hhead).append (isSpaced_singleton hline), (List.append_nil _).symm⟩

/-- The lines of a constructor or method are well spaced if those of its body are. -/
theorem Executable.IsUnbroken.isSpaced_block {e : Executable} (h : e.IsUnbroken)
    (hbody : e.HasSpacedBody) : ((Member.executable e).block style indent).IsSpaced := by
  have hhead := isBlankLine_of_mem_headLines e.shownDocumentation e.options.annotations hindent
    h.newline_not_mem_of_mem_tags
  have himplementation := hbody.isSpaced_implementation style indent
  have hne : e.implementation style indent ≠ [] := by
    unfold implementation
    split
    · simp
    · split <;> simp
  exact ⟨_, List.append_ne_nil_of_right_ne_nil _ hne,
    (isSpaced_of_forall hhead).append himplementation, rfl⟩

end Members

namespace Block

/-! ## Sections -/

section Sections

variable (style : Style) (indent : String) {front : List String} {bs : List Block}

/-- A category opens with just one blank line, be it there already or not, and its heading. -/
theorem append_sectionOpening (c : Category) (afterBlank : Bool) :
    (if afterBlank then [""] else []) ++ sectionOpening style indent c afterBlank =
      "" :: Sections.heading style indent c.title := by
  unfold sectionOpening Sections.heading
  cases afterBlank <;> cases c.title.isEmpty <;> rfl

/-- A heading and lines after it keep the whole well spaced; the heading has blank lines around
it. -/
theorem isSpaced_append_heading (hfront : Text.IsSpaced front) (hne : front ≠ []) {ls : List String}
    (hls : Text.IsSpaced ls) (hls' : ls ≠ []) (title : String) :
    Text.IsSpaced (front ++ "" :: Sections.heading style indent title ++ ls) := by
  unfold Sections.heading
  split
  · rw [List.append_assoc]
    exact hfront.append_blank hls hne hls'
  · have hbanner : Text.IsSpaced (style.banner title indent) :=
      isSpaced_of_forall Style.isBlankLine_of_mem_banner
    have hbannerNe : style.banner title indent ≠ [] := List.cons_ne_nil _ _
    have htitled := (hfront.append_blank hbanner hne hbannerNe).append_blank hls
      (List.append_ne_nil_of_left_ne_nil hne _) hls'
    simpa only [List.append_assoc, List.cons_append, List.nil_append] using htitled

/-- Lines that are spaced stay so when a block is put behind them, with what opens its category. -/
theorem isSpaced_append_opening (c : Category) (hfront : Text.IsSpaced front) (hne : front ≠ [])
    {ls : List String} (hls : Text.IsSpaced ls) (hls' : ls ≠ []) (previous : String)
    (afterBlank : Bool) :
    Text.IsSpaced (front ++ (if afterBlank then [""] else []) ++
      (if c.tag = previous then [] else sectionOpening style indent c afterBlank) ++ ls) := by
  by_cases htag : c.tag = previous
  · rw [if_pos htag, List.append_nil]
    cases afterBlank with
    | true =>
      rw [if_pos rfl, List.append_assoc]
      exact hfront.append_blank hls hne hls'
    | false =>
      rw [if_neg Bool.false_ne_true, List.append_nil]
      exact hfront.append hls
  · rw [if_neg htag, List.append_assoc front, append_sectionOpening]
    exact isSpaced_append_heading style indent hfront hne hls hls' c.title

/-- The members of a type between its header and its closing brace, given the lines before them and
whether a blank line follows these. -/
theorem isSpaced_sectionLines (hbs : ∀ b ∈ bs, b.IsSpaced) {close : String}
    (hclose : isBlankLine close = false) (previous : String) (afterBlank : Bool)
    (hfront : Text.IsSpaced front) (hne : front ≠ []) :
    Text.IsSpaced (front ++ (if afterBlank then [""] else []) ++
      sectionLines style indent previous afterBlank bs ++ [close]) := by
  induction bs generalizing front previous afterBlank with
  | nil =>
    have hlast := isSpaced_singleton hclose
    cases afterBlank with
    | true => simpa [sectionLines] using hfront.append_blank hlast hne (List.cons_ne_nil _ _)
    | false => simpa [sectionLines] using hfront.append hlast
  | cons b bs ih =>
    obtain ⟨ls, hls', hls, hlines⟩ := hbs b List.mem_cons_self
    have hnext := isSpaced_append_opening style indent b.category hfront hne hls hls' previous
      afterBlank
    have hrest := ih (fun d hd => hbs d (List.mem_cons_of_mem b hd)) b.category.tag b.endsBlank
      hnext (List.append_ne_nil_of_right_ne_nil _ hls')
    rw [sectionLines, hlines]
    simpa only [List.append_assoc] using hrest

end Sections

/-- The lines of a type are well spaced if those of its members are. -/
theorem isSpaced_typeLines {style : Style} {indent : String} {h : TypeHeader}
    (hpreamble : ∀ line ∈ h.preamble indent, isBlankLine line = false) {bs : List Block}
    (hbs : ∀ b ∈ bs, b.IsSpaced) : Text.IsSpaced (typeLines style indent h bs) := by
  have hline (ending : String) (hc : '\x7b' ∈ ending.toList) :
      Text.IsSpaced (h.preamble indent ++ [indent ++ h.declaration ++ ending]) :=
    (isSpaced_of_forall hpreamble).append
      (isSpaced_singleton (isBlankLine_eq_false (c := '\x7b') (by simp [hc]) (by decide)))
  by_cases hne : bs = []
  · rw [hne]
    exact hline " \x7b\x7d" (by decide)
  · have hclose : isBlankLine (indent ++ "\x7d") = false :=
      isBlankLine_eq_false (c := '\x7d') (by simp) (by decide)
    have hmembers : ∀ b ∈ inOrder bs, b.IsSpaced := fun b hb => hbs b (List.mem_mergeSort.mp hb)
    have hspaced := isSpaced_sectionLines style (indent ++ style.indentUnit) hmembers hclose "" true
      (hline " \x7b" (by decide)) (by simp)
    rw [typeLines_of_ne_nil _ _ _ hne]
    simpa only [List.append_assoc, List.cons_append, List.nil_append, if_true] using hspaced

end Block

namespace TypeDecl

variable {t : TypeDecl} {style : Style}

/-- Whether the bodies in a type have no two blank lines in a row. -/
def HasSpacedBodies (t : TypeDecl) : Prop := ∀ e, .executable e ∈ t.members → e.HasSpacedBody

/-- The blocks of the members of a type, and the lines of a type, are spaced. -/
theorem isSpaced_lines (hunit : '\n' ∉ style.indentUnit.toList)
    (ht : t.Everywhere fun u => u.HasSpacedBodies ∧ u.IsUnbroken) {indent : String}
    (hindent : '\n' ∉ indent.toList) :
    Text.IsSpaced (t.lines style indent) ∧
      ∀ m ∈ t.members, (m.block style (indent ++ style.indentUnit)).IsSpaced := by
  induction t using inductionOnNested generalizing indent with
  | step t ih =>
    obtain ⟨hbodies, hunbroken⟩ := ht.1
    have hinner : '\n' ∉ (indent ++ style.indentUnit).toList :=
      newline_not_mem_append.mpr ⟨hindent, hunit⟩
    have hmembers : ∀ m ∈ t.members, (m.block style (indent ++ style.indentUnit)).IsSpaced := by
      intro m hm
      have hm' := hunbroken.members m hm
      cases m with
      | field f => exact Field.IsUnbroken.isSpaced_block hinner hm'
      | executable e => exact Executable.IsUnbroken.isSpaced_block hinner hm' (hbodies e hm)
      | type header identities members =>
        have hlines := (ih ⟨header, identities, members⟩ hm (ht.nested hm) hinner).1
        exact ⟨_, lines_ne_nil style _ ⟨header, identities, members⟩, hlines, rfl⟩
    refine ⟨Block.isSpaced_typeLines ?_ fun b hb => ?_, hmembers⟩
    · exact isBlankLine_of_mem_headLines _ _ hindent hunbroken.header.newline_not_mem_of_mem_tags
    · obtain ⟨m, hm, rfl⟩ := Member.mem_blocks_iff.mp hb
      exact hmembers m hm

end TypeDecl

/-! ## Banners -/

namespace Block

/-- The pass over blocks can be cut anywhere; it goes on with what the last block before the cut
leaves behind. -/
theorem sectionLines_append (style : Style) (indent : String) (as bs : List Block)
    (previous : String) (afterBlank : Bool) :
    sectionLines style indent previous afterBlank (as ++ bs) =
      sectionLines style indent previous afterBlank as ++
        sectionLines style indent ((as.getLast?.map fun b => b.category.tag).getD previous)
          ((as.getLast?.map endsBlank).getD afterBlank) bs := by
  induction as generalizing previous afterBlank with
  | nil => rfl
  | cons a as ih =>
    rw [List.cons_append, sectionLines, sectionLines, ih, List.getLast?_cons, Option.map_some,
      Option.map_some, Option.getD_some, Option.getD_some, Option.getD_map, Option.getD_map]
    simp only [List.append_assoc]

/-- A block leaves one blank line behind it, or none and then the next category brings one. -/
theorem IsSpaced.exists_append_gap {b : Block} (h : b.IsSpaced) :
    ∃ ls x, b.lines ++ (if b.endsBlank then [] else [""]) = ls ++ [x, ""] ∧
      isBlankLine x = false := by
  obtain ⟨ls, hne, hls, hlines⟩ := h
  obtain ⟨front, last, rfl⟩ := (List.eq_nil_or_concat' ls).resolve_left hne
  refine ⟨front, last, ?_, hls.last last (List.getLast?_concat ..)⟩
  rw [hlines]
  cases b.endsBlank <;> simp

/-- The lines of blocks between the header of a type and a new category, which may bring a blank
line of its own, end with a blank line and another one before it. -/
theorem exists_front_eq_append (style : Style) (indent : String) (front : List String)
    {header : String} (hheader : isBlankLine header = false) {bs : List Block}
    (hbs : ∀ b ∈ bs, b.IsSpaced) :
    ∃ start x, front ++ header :: "" :: sectionLines style indent "" true bs ++
        (if (bs.getLast?.map endsBlank).getD true then [] else [""]) = start ++ [x, ""] ∧
      isBlankLine x = false := by
  obtain rfl | ⟨bs, b, rfl⟩ := List.eq_nil_or_concat' bs
  · exact ⟨front, header, by simp [sectionLines], hheader⟩
  · obtain ⟨ls, x, hgap, hx⟩ := (hbs b (by simp)).exists_append_gap
    have hlast : ((bs ++ [b]).getLast?.map endsBlank).getD true = b.endsBlank := by
      rw [List.getLast?_concat]
      rfl
    have hends (ls' : List String) :
        ls' ++ b.lines ++ (if b.endsBlank then [] else [""]) = ls' ++ ls ++ [x, ""] := by
      rw [List.append_assoc, hgap, List.append_assoc]
    rw [hlast, sectionLines_append, sectionLines, sectionLines, List.append_nil]
    simp only [← List.append_assoc, ← List.cons_append]
    exact ⟨_, x, hends _, hx⟩

end Block

/-- A member that opens a category with a title stands below the banner of the category, with one
blank line between them and one above the banner. -/
theorem TypeDecl.exists_lines_eq_append_banner {t : TypeDecl} {style : Style} {indent : String}
    (hblocks : ∀ m ∈ t.members, (m.block style (indent ++ style.indentUnit)).IsSpaced)
    {earlier later : List Member} {m : Member}
    (horder : Member.inOrder t.members = earlier ++ m :: later) (htitle : m.category.title ≠ "")
    (htag : m.tag ≠ (earlier.getLast?.map Member.tag).getD "") :
    ∃ start x rest, t.lines style indent =
        start ++ [x, ""] ++ style.banner m.category.title (indent ++ style.indentUnit) ++ [""] ++
          (m.block style (indent ++ style.indentUnit)).lines ++ rest ∧
      isBlankLine x = false := by
  have hmem {n : Member} (hn : n ∈ earlier ++ m :: later) : n ∈ t.members := by
    rw [← horder] at hn
    exact (Member.inOrder_perm t.members).mem_iff.mp hn
  have hne : Member.blocks style (indent ++ style.indentUnit) t.members ≠ [] :=
    List.ne_nil_of_mem (Member.mem_blocks_iff.mpr ⟨m, hmem (by simp), rfl⟩)
  have hheader : isBlankLine (indent ++ t.header.declaration ++ " \x7b") = false :=
    isBlankLine_eq_false (c := '\x7b') (by simp) (by decide)
  have hspaced : ∀ b ∈ earlier.map (Member.block style (indent ++ style.indentUnit)),
      b.IsSpaced := by
    rw [List.forall_mem_map]
    exact fun n hn => hblocks n (hmem (List.mem_append_left _ hn))
  obtain ⟨start, x, hfront, hx⟩ := Block.exists_front_eq_append style
    (indent ++ style.indentUnit) (t.header.preamble indent) hheader hspaced
  -- a banner is drawn where the tag differs from that of the block before, or from none at all
  have hopens : (m.block style (indent ++ style.indentUnit)).category.tag ≠
      ((earlier.map (Member.block style (indent ++ style.indentUnit))).getLast?.map
        fun b => b.category.tag).getD "" := by
    simp only [List.getLast?_map, Option.map_map, Function.comp_def, Member.block_category]
    exact htag
  have hcategory := Member.block_category style (indent ++ style.indentUnit) m
  refine ⟨start, x, Block.sectionLines style (indent ++ style.indentUnit) m.category.tag
    (m.block style (indent ++ style.indentUnit)).endsBlank
    (later.map (Member.block style (indent ++ style.indentUnit))) ++ [indent ++ "\x7d"], ?_, hx⟩
  rw [← hfront, lines, Block.typeLines_of_ne_nil _ _ _ hne, Member.inOrder_blocks, horder,
    List.map_append, List.map_cons, Block.sectionLines_append, Block.sectionLines, if_neg hopens,
    Block.sectionOpening, hcategory, if_neg (by simpa using htitle)]
  simp only [List.append_assoc, List.cons_append, List.nil_append]

/-- A category with a title has a tag. -/
theorem TypeDecl.KeepsCategories.tag_ne_empty {t : TypeDecl} (ht : t.KeepsCategories) {m : Member}
    (hm : m ∈ t.members) (htitle : m.category.title ≠ "") : m.tag ≠ "" := by
  intro htag
  have hparse := ht m hm
  rw [htag] at hparse
  have huntitled : Category.untitled = m.category := Except.ok.inj hparse
  rw [← huntitled] at htitle
  exact htitle rfl

namespace Session

/-- In a type of a session that is reached no two blank lines come together, as long as none do in
the bodies in it, and neither its first nor its last line is blank.  Where a member of the type, or
of a type in it, opens a category with a title, there is just one blank line above the banner and
just one below it.  A member says whether its last line is blank.  No line is broken. -/
theorem lines_spaced (actions : List Action) (a : Address) (u : CompilationUnit) (t : TypeDecl)
    (hfind : (empty.performAll actions).find? a = some (u, t)) (s : Settings) (indent : String)
    (hindent : ∀ c ∈ indent.toList, isIndent c = true)
    (hbodies : t.Everywhere TypeDecl.HasSpacedBodies)
    (hunbroken : t.Everywhere TypeDecl.IsUnbroken) :
    t.lines s.style indent ≠ [] ∧ Text.IsSpaced (t.lines s.style indent) ∧
      (∀ depth v, t.Contains depth v →
        let inner := s.style.indentAt indent depth ++ s.style.indentUnit
        (∀ earlier m later, Member.inOrder v.members = earlier ++ m :: later →
          m.category.title ≠ "" → (∀ m' ∈ earlier.getLast?, m'.tag ≠ m.tag) →
          ∃ start x y ls rest, (m.lines s.style inner).1 = y :: ls ∧
            t.lines s.style indent = start ++ [x, ""] ++ s.style.banner m.category.title inner ++
              ["", y] ++ ls ++ rest ∧ isBlankLine x = false ∧ isBlankLine y = false) ∧
        ∀ m ∈ v.members, ∃ last ∈ (m.lines s.style inner).1.getLast?,
          (m.lines s.style inner).2 = true ↔ isBlankLine last = true) ∧
      Text.lines (unlines (t.lines s.style indent)) = t.lines s.style indent := by
  have hunit := s.isIndent_of_mem_indentUnit
  have hunitLine := newline_not_mem_of_isIndent hunit
  have hindentLine := newline_not_mem_of_isIndent hindent
  have hcategories := everywhere_of_find? TypeDecl.invariant_keepsCategories hfind
  have hspaced := hbodies.and hunbroken
  refine ⟨t.lines_ne_nil s.style indent, (TypeDecl.isSpaced_lines hunitLine hspaced hindentLine).1,
    fun depth v hv => ⟨?banners, ?flags⟩, ?unbroken⟩
  case banners =>
    intro earlier m later horder htitle hopens
    have hm : m ∈ v.members := by
      rw [← (Member.inOrder_perm v.members).mem_iff, horder]
      simp
    have hinside := newline_not_mem_of_isIndent (Style.isIndent_of_mem_indentAt hunit hindent depth)
    have hblocks := (TypeDecl.isSpaced_lines hunitLine (hspaced.of_contains hv) hinside).2
    have htag : m.tag ≠ (earlier.getLast?.map Member.tag).getD "" := by
      -- the start counts as an empty tag, which no category with a title has
      cases hlast : earlier.getLast? with
      | none => exact (hcategories.of_contains hv).1.tag_ne_empty hm htitle
      | some m' => exact (hopens m' hlast).symm
    obtain ⟨start, x, rest, hlines, hx⟩ :=
      TypeDecl.exists_lines_eq_append_banner hblocks horder htitle htag
    obtain ⟨ls, hne, hls, hmember⟩ := hblocks m hm
    obtain ⟨y, ls, rfl⟩ := List.exists_cons_of_ne_nil hne
    -- the lines of a type inside stand in one piece among those of the whole
    obtain ⟨before, after, houter⟩ := hv.exists_lines_eq_append s.style indent
    rw [List.cons_append] at hmember
    refine ⟨before ++ start, x, y, _, rest ++ after, hmember, ?_, hx, hls.first y rfl⟩
    rw [houter, hlines, hmember]
    simp only [List.append_assoc, List.cons_append, List.nil_append]
  case flags =>
    intro m hm
    obtain ⟨front, last, hlines, hlast⟩ :=
      m.block_ends s.style (s.style.indentAt indent depth ++ s.style.indentUnit)
    refine ⟨last, ?_, ?_⟩
    · rw [Member.lines, hlines]
      exact List.getLast?_concat ..
    · rw [Member.lines, hlast]
  case unbroken =>
    have hnamed := everywhere_of_find? TypeDecl.invariant_isNamed hfind
    exact TypeDecl.lines_unlines_lines hunitLine (hnamed.and (hcategories.and hunbroken))
      hindentLine

/-- A class with one method, which opens a category and has a body with a blank line. -/
theorem lines_spaced_counter :
    let counters := empty.performAll
      [.openUnit "" { kind := .classType, name := "Counter", authors := ["A"] },
        .edit ⟨0, []⟩ (.method { returnType := .primitive "void", name := "count"
                                 body := some "\n  a();\n\t\n  b();"
                                 options := { category := "1_Access" } })]
    let style := (Settings.withBanners 24).style
    let banner := ["\t    // ################", "\t    // # Access #######",
      "\t    // ################"]
    let member := ["\t    void count() \x7b", "\t        a();", "", "\t        b();",
      "\t    \x7d", ""]
    ∃ u t, counters.find? ⟨0, []⟩ = some (u, t) ∧
      t.members.map (fun m => (m.category.title, m.lines style "\t    ")) =
        [("Access", member, true)] ∧
      Text.IsSpaced (t.lines style "\t") ∧
      (∃ start x rest, t.lines style "\t" =
        start ++ [x, ""] ++ banner ++ [""] ++ member ++ rest ∧ isBlankLine x = false) ∧
      Text.lines (unlines (t.lines style "\t")) = t.lines style "\t" := by
  intro counters style banner member
  let count : Executable := ⟨.method (.primitive "void") "", "count", "", [], [],
    some "\n  a();\n\t\n  b();", ⟨"1_Access", some 1, "Access"⟩, { category := "1_Access" }⟩
  let counter : TypeDecl := ⟨⟨.classType, "Counter", .empty, [], "", "", ["A"], [], .untitled, none,
    [], [], []⟩, [.method "count" []], [.executable count]⟩
  have hcounter : (counters.find? ⟨0, []⟩).map (·.2) = some counter := rfl
  obtain ⟨⟨u, t⟩, hfound, ht⟩ := Option.map_eq_some_iff.mp hcounter
  have hfind : counters.find? ⟨0, []⟩ = some (u, counter) := by rw [hfound, ← ht]
  have hinner {v : TypeDecl} : v.toMember ∉ counter.members := by
    simp [counter, TypeDecl.toMember]
  have hcount : count.IsUnbroken :=
    ⟨by simpa [count, ExecutableForm.written] using .primitive (by decide) (by simp),
      by simp [count], ⟨by simp [count], by decide, by simp [count], by simp [count]⟩⟩
  have hunbroken : counter.Everywhere TypeDecl.IsUnbroken :=
    .of_nested ⟨⟨by simp [counter], by decide, by decide, by simp [counter], by simp [counter],
      by simp [counter], by simp [counter]⟩, List.forall_mem_singleton.mpr hcount⟩
      fun v hv => absurd hv hinner
  have hbody : count.HasSpacedBody := by
    have hlines : bodyLines "" "\n  a();\n\t\n  b();" = ["a();", "", "b();"] := by decide
    intro body hbody
    obtain rfl := Option.some.inj hbody
    rw [hlines]
    decide
  have hbodies : counter.Everywhere TypeDecl.HasSpacedBodies := by
    refine .of_nested (fun e he => ?_) fun v hv => absurd hv hinner
    obtain rfl := Member.executable.inj (List.mem_singleton.mp he)
    exact hbody
  have hindent : ∀ c ∈ "\t".toList, isIndent c = true := List.all_eq_true.mp (by decide)
  obtain ⟨-, hspaced, hinside, hlines⟩ := lines_spaced _ _ u counter hfind (Settings.withBanners 24)
    "\t" hindent hbodies hunbroken
  have hmember : (Member.executable count).lines style "\t    " = (member, true) := by decide
  have hplace : style.indentAt "\t" 0 ++ style.indentUnit = "\t    " := by decide
  have hshown : style.banner "Access" "\t    " = banner := by decide
  obtain ⟨start, x, y, ls, rest, hfirst, habove, hx, -⟩ := (hinside 0 counter (.self _)).1 []
    (.executable count) [] (List.mergeSort_singleton _) (by decide) (by simp)
  rw [hplace] at hfirst habove
  have hfirst : member = y :: ls := (congrArg Prod.fst hmember).symm.trans hfirst
  refine ⟨u, counter, hfind, congrArg (fun ls => [("Access", ls)]) hmember, hspaced,
    ⟨start, x, rest, ?_, hx⟩, hlines⟩
  rw [habove, hfirst, ← hshown]
  simp only [List.append_assoc, List.cons_append, List.nil_append]
  rfl

end Session

end JavaScribe
