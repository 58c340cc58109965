import JavaScribe.Proofs.MemberOrder
import JavaScribe.Proofs.ReachableSession
import Mathlib.Data.List.Dedup

/-!
# Sections

A type is written in one pass over its members, which remembers the tag of the category before and
whether the last line was blank.  Here is what comes out, told without the pass: the members fall
into sections, one for each tag, in ascending order of the tags, and every section is written on its
own but for the blank line that may open it.

Three things have to fit together.  Members of one category stand together, because the tag is the
first part of their keys.  Members of one tag have one category, because the category was read from
the tag (`TypeDecl.KeepsCategories`).  And what the pass believes about the last line is true of the
line that was written (`Member.block_ends`).
-/

set_option autoImplicit false

namespace JavaScribe

namespace Category

/-- The title that a tag is read as; a tag that is not read has none. -/
def titleOf (tag : String) : String :=
  match parse tag with
  | .ok c => c.title
  | .error _ => ""

end Category

namespace TypeDecl

/-- Whether the category of each member is the one that its tag is read as. -/
def KeepsCategories (t : TypeDecl) : Prop :=
  ∀ m ∈ t.members, Category.parse m.tag = .ok m.category

/-- That categories are kept is an invariant. -/
theorem invariant_keepsCategories : Invariant KeepsCategories where
  declare {s site p e} h := by
    obtain ⟨-, -, -, category, accepted, -, -, rfl⟩ := TypeSpec.declare_eq_ok_iff.mp h
    intro m hm
    exact absurd hm List.not_mem_nil
  edit {t p ed e} he ht := by
    intro m hm
    rcases mem_members_of_edit he hm with hm | hm
    · exact ht m hm
    · exact hm.category
  nested {header identities before after v v'} h ht := by
    have hcategory : v'.toMember.category = v.toMember.category := by
      show v'.header.declared.category = v.header.declared.category
      rw [h]
    intro m hm
    simp only [List.mem_append, List.mem_cons] at hm
    rcases hm with hm | rfl | hm
    · exact ht m (List.mem_append_left _ hm)
    · unfold Member.tag
      rw [hcategory]
      exact ht v.toMember (List.mem_append_right _ List.mem_cons_self)
    · exact ht m (List.mem_append_right _ (List.mem_cons_of_mem _ hm))

end TypeDecl

namespace Sections

/-- The tags of the categories of members, each once and in ascending order. -/
def tags (ms : List Member) : List String :=
  (ms.map Member.tag).dedup.mergeSort fun s t => (compare s t).isLE

/-- The members of the category with the given tag, in canonical order. -/
def ofTag (ms : List Member) (tag : String) : List Member :=
  (Member.inOrder ms).filter fun m => decide (m.tag = tag)

/-- Whether a line holds nothing but white space. -/
def isBlankLine (line : String) : Bool := line.toList.all Text.isBlank

/-- What a section opens with, given its title, whether it is the first one, and the line before
it. -/
def opening (style : Style) (indent title : String) (first : Bool) (before : String) :
    List String :=
  if title.isEmpty then (if !first && !isBlankLine before then [""] else [])
  else (if isBlankLine before then [] else [""]) ++ style.banner title indent ++ [""]

/-- The banner of a section and the empty line after it, if the section has a title. -/
def heading (style : Style) (indent title : String) : List String :=
  if title.isEmpty then [] else style.banner title indent ++ [""]

/-- The lines of members, one after the other. -/
def body (style : Style) (indent : String) (ms : List Member) : List String :=
  ms.flatMap fun m => (m.lines style indent).1

/-- The lines of the sections with the given tags, given whether the first of them is the first of
all, and the line before it. -/
def lines (style : Style) (indent : String) (ms : List Member) :
    (first : Bool) → (before : String) → (tags : List String) → List String
  | _, _, [] => []
  | first, before, tag :: rest =>
    let text := opening style indent (Category.titleOf tag) first before ++
      body style indent (ofTag ms tag)
    text ++ lines style indent ms false (text.getLastD before) rest

/-- The tags are in ascending order. -/
theorem pairwise_tags (ms : List Member) :
    (tags ms).Pairwise fun s t => compare s t = .lt := by
  have hsorted : (tags ms).Pairwise fun s t => (compare s t).isLE = true :=
    StableSort.pairwise_mergeSort compare id (ms.map Member.tag).dedup
  have hnodup : (tags ms).Nodup :=
    (List.mergeSort_perm _ _).nodup_iff.mpr (List.nodup_dedup _)
  refine (hsorted.and hnodup).imp ?_
  intro s t hst
  obtain ⟨hle, hne⟩ := hst
  cases h : compare s t with
  | lt => rfl
  | eq => exact absurd (Std.LawfulEqCmp.eq_of_compare h) hne
  | gt => simp [h] at hle

/-- The tags of members are those that a member has. -/
theorem mem_tags {ms : List Member} {tag : String} :
    tag ∈ tags ms ↔ ∃ m ∈ ms, m.tag = tag := by
  rw [tags, List.mem_mergeSort, List.mem_dedup, List.mem_map]

/-- The sections taken together are the members in canonical order. -/
theorem flatMap_ofTag_tags (ms : List Member) :
    (tags ms).flatMap (ofTag ms) = Member.inOrder ms :=
  (Member.inOrder_eq_flatMap_tag ms (pairwise_tags ms) fun m hm => mem_tags.mpr ⟨m, hm, rfl⟩).symm

/-- The members of a tag are those that have it. -/
theorem mem_ofTag {ms : List Member} {tag : String} {m : Member} :
    m ∈ ofTag ms tag ↔ m ∈ ms ∧ m.tag = tag := by
  rw [ofTag, List.mem_filter, (Member.inOrder_perm ms).mem_iff, decide_eq_true_eq]

end Sections

namespace Member

/-- The last line of a written member is blank if and only if the member says so. -/
theorem block_ends (style : Style) (indent : String) (m : Member) :
    ∃ front last, (m.block style indent).lines = front ++ [last] ∧
      Sections.isBlankLine last = (m.block style indent).endsBlank := by
  cases m with
  | field f =>
    refine ⟨_, _, rfl, ?_⟩
    -- the line has the semicolon that it ends with
    have hsemicolon : ';' ∈ (indent ++ f.declaration ++ ";").toList := by simp
    show Sections.isBlankLine (indent ++ f.declaration ++ ";") = false
    refine List.all_eq_false.mpr ⟨';', hsemicolon, by decide⟩
  | executable e => exact ⟨_, _, rfl, rfl⟩
  | type header identities members => exact ⟨_, _, rfl, rfl⟩

end Member

namespace Block

/-- Blocks of one category, the last of them set apart, are written without a gap.  Before them
comes what opens the category, unless it goes on. -/
theorem sectionLines_of_category_eq (style : Style) (indent : String) {c : Category}
    {bs : List Block} {b : Block} (hbs : ∀ d ∈ bs, d.category = c) (hb : b.category = c)
    (previous : String) (afterBlank : Bool) (rest : List Block) :
    sectionLines style indent previous afterBlank (bs ++ b :: rest) =
      (if c.tag = previous then [] else sectionOpening style indent c afterBlank) ++
        (bs.flatMap Block.lines ++ b.lines) ++
        sectionLines style indent c.tag b.endsBlank rest := by
  induction bs generalizing previous afterBlank with
  | nil =>
    rw [List.nil_append, sectionLines, hb, List.flatMap_nil, List.nil_append]
  | cons d bs ih =>
    have hd : d.category = c := hbs d List.mem_cons_self
    have hrest := ih (fun x hx => hbs x (List.mem_cons_of_mem _ hx)) c.tag d.endsBlank
    rw [List.cons_append, sectionLines, hd, hrest, if_pos rfl, List.flatMap_cons]
    simp only [List.nil_append, List.append_assoc]

end Block

namespace Sections

/-- The pass opens a section as it should, if it knows whether the line before is blank. -/
theorem sectionOpening_eq_opening (style : Style) (indent : String) (c : Category) {first : Bool}
    {before : String} (hfirst : first = true → isBlankLine before = true) :
    Block.sectionOpening style indent c (isBlankLine before) =
      opening style indent c.title first before := by
  unfold Block.sectionOpening opening
  cases htitle : c.title.isEmpty with
  | true =>
    cases first with
    | true => simp [hfirst rfl]
    | false => cases isBlankLine before <;> rfl
  | false => rfl

/-- The text of a section that is not empty ends with the last line of its last member. -/
theorem isBlankLine_getLastD_body (style : Style) (indent before : String) (opened : List String)
    (ms : List Member) (m : Member) :
    isBlankLine ((opened ++ body style indent (ms ++ [m])).getLastD before) =
      (m.block style indent).endsBlank := by
  obtain ⟨front, last, hlines, hlast⟩ := m.block_ends style indent
  have hbody : body style indent (ms ++ [m]) = body style indent ms ++ (front ++ [last]) := by
    simp only [body, List.flatMap_append, List.flatMap_singleton, Member.lines, hlines]
  rw [hbody, ← hlast, ← List.append_assoc, ← List.append_assoc, List.getLastD_concat]

/-- A section that has members has a last one, and all of them are of the category that the tag is
read as. -/
theorem exists_ofTag_eq_append {ms : List Member}
    (hms : ∀ m ∈ ms, Category.parse m.tag = .ok m.category) {tag : String}
    (hused : ∃ m ∈ ms, m.tag = tag) :
    ∃ front last c, ofTag ms tag = front ++ [last] ∧ Category.parse tag = .ok c ∧
      last.category = c ∧ ∀ m ∈ front, m.category = c := by
  obtain ⟨m, hm, rfl⟩ := hused
  have hne : ofTag ms m.tag ≠ [] := List.ne_nil_of_mem (mem_ofTag.mpr ⟨hm, rfl⟩)
  obtain ⟨front, last, hsplit⟩ := (List.eq_nil_or_concat' (ofTag ms m.tag)).resolve_left hne
  have hsame : ∀ m' ∈ front ++ [last], m'.category = m.category := by
    intro m' hm'
    rw [← hsplit] at hm'
    obtain ⟨hm', htag⟩ := mem_ofTag.mp hm'
    have hparse := hms m' hm'
    rw [htag, hms m hm] at hparse
    exact (Except.ok.inj hparse).symm
  refine ⟨front, last, m.category, hsplit, hms m hm, ?_, ?_⟩
  · exact hsame last (List.mem_append_right _ List.mem_cons_self)
  · exact fun m' hm' => hsame m' (List.mem_append_left _ hm')

/-- The pass over the members of several sections writes these sections.  It may come from a
category with the tag `previous` that is not among them; at the start it takes the untitled one
for the category before. -/
theorem sectionLines_eq_lines (style : Style) (indent : String) {ms : List Member}
    (hms : ∀ m ∈ ms, Category.parse m.tag = .ok m.category) {tags : List String}
    (htags : tags.Nodup) (hused : ∀ tag ∈ tags, ∃ m ∈ ms, m.tag = tag) (previous : String)
    (first : Bool) (before : String) (hfirst : first = true → isBlankLine before = true)
    (hprevious : previous ∉ tags ∨ first = true ∧ previous = "") :
    Block.sectionLines style indent previous (isBlankLine before)
        ((tags.flatMap (ofTag ms)).map (Member.block style indent)) =
      lines style indent ms first before tags := by
  induction tags generalizing previous first before with
  | nil => rfl
  | cons tag rest ih =>
    obtain ⟨hnew, hrest⟩ := List.nodup_cons.mp htags
    obtain ⟨front, last, c, hsplit, hparse, hlast, hfront⟩ :=
      exists_ofTag_eq_append hms (hused tag List.mem_cons_self)
    have htag : c.tag = tag := Category.tag_of_parse hparse
    have htitle : Category.titleOf tag = c.title := by
      unfold Category.titleOf
      rw [hparse]
    -- only at the start can the tag be that of the category before, for tags are not repeated
    have hopening : (if c.tag = previous then []
          else Block.sectionOpening style indent c (isBlankLine before)) =
        opening style indent (Category.titleOf tag) first before := by
      rw [htag, htitle, sectionOpening_eq_opening style indent c hfirst]
      split
      · next h =>
        rcases hprevious with hprevious | ⟨rfl, rfl⟩
        · exact absurd (h ▸ List.mem_cons_self) hprevious
        · -- the members without a category come first, and nothing opens them
          subst h
          have huntitled : Category.untitled = c := Except.ok.inj hparse
          rw [← huntitled]
          rfl
      · rfl
    have hbody : (front.map (Member.block style indent)).flatMap Block.lines ++
          (last.block style indent).lines = body style indent (front ++ [last]) := by
      simp only [body, List.flatMap_map, List.flatMap_append, List.flatMap_singleton, Member.lines]
    have hgroup : ∀ d ∈ front.map (Member.block style indent), d.category = c := by
      intro d hd
      obtain ⟨m, hm, rfl⟩ := List.mem_map.mp hd
      rw [Member.block_category]
      exact hfront m hm
    have hgo := Block.sectionLines_of_category_eq style indent hgroup
      ((Member.block_category style indent last).trans hlast) previous (isBlankLine before)
      ((rest.flatMap (ofTag ms)).map (Member.block style indent))
    rw [List.flatMap_cons, hsplit, List.map_append, List.map_append, List.map_singleton,
      List.append_assoc, List.singleton_append, hgo, hopening, hbody, htag, lines, hsplit,
      ← isBlankLine_getLastD_body style indent before _ front last]
    congr 1
    refine ih hrest (fun t ht => hused t (List.mem_cons_of_mem _ ht)) tag false _ ?_ (.inl hnew)
    intro h
    cases h

/-- A section opens with its heading, and at most an empty line before it. -/
theorem opening_eq_append_heading (style : Style) (indent title : String) (first : Bool)
    (before : String) :
    ∃ gap, (gap = [] ∨ gap = [""]) ∧
      opening style indent title first before = gap ++ heading style indent title := by
  unfold opening heading
  cases title.isEmpty with
  | true =>
    refine ⟨if !first && !isBlankLine before then [""] else [], ?_, by simp⟩
    split
    · exact .inr rfl
    · exact .inl rfl
  | false =>
    refine ⟨if isBlankLine before then [] else [""], ?_, by simp [List.append_assoc]⟩
    split
    · exact .inl rfl
    · exact .inr rfl

/-- Each section has its heading and its members, and at most an empty line before them. -/
theorem lines_eq_flatten (style : Style) (indent : String) (ms : List Member) (tags : List String)
    (first : Bool) (before : String) :
    ∃ gaps : List (List String), gaps.length = tags.length ∧ (∀ g ∈ gaps, g = [] ∨ g = [""]) ∧
      lines style indent ms first before tags =
        (List.zipWith (fun gap tag => gap ++ heading style indent (Category.titleOf tag) ++
          body style indent (ofTag ms tag)) gaps tags).flatten := by
  induction tags generalizing first before with
  | nil => exact ⟨[], rfl, by simp, rfl⟩
  | cons tag rest ih =>
    obtain ⟨gap, hgap, hopening⟩ :=
      opening_eq_append_heading style indent (Category.titleOf tag) first before
    obtain ⟨gaps, hlength, hgaps, hlines⟩ := ih false ((opening style indent
      (Category.titleOf tag) first before ++ body style indent (ofTag ms tag)).getLastD before)
    refine ⟨gap :: gaps, ?_, ?_, ?_⟩
    · rw [List.length_cons, List.length_cons, hlength]
    · intro g hg
      rcases List.mem_cons.mp hg with rfl | hg
      · exact hgap
      · exact hgaps g hg
    · rw [lines, hlines, hopening, List.zipWith_cons_cons, List.flatten_cons]

end Sections

/-- A type with members is written as its comment, its annotations and its header, an empty line,
and its sections, between braces, if its members are of the categories that their tags are read
as. -/
theorem TypeDecl.KeepsCategories.lines_eq {t : TypeDecl} (ht : t.KeepsCategories)
    (hne : t.members ≠ []) (style : Style) (indent : String) :
    t.lines style indent =
      t.header.preamble indent ++ [indent ++ t.header.declaration ++ " \x7b", ""] ++
        Sections.lines style (indent ++ style.indentUnit) t.members true ""
          (Sections.tags t.members) ++ [indent ++ "\x7d"] := by
  have hnodup : (Sections.tags t.members).Nodup := by
    refine (Sections.pairwise_tags t.members).imp ?_
    rintro s _ h rfl
    simp [Std.ReflCmp.compare_self] at h
  have hsections := Sections.sectionLines_eq_lines style (indent ++ style.indentUnit) ht hnodup
    (fun tag htag => Sections.mem_tags.mp htag) "" true "" (fun _ => rfl) (.inr ⟨rfl, rfl⟩)
  rw [Sections.flatMap_ofTag_tags, ← Member.inOrder_blocks] at hsections
  rw [← hsections]
  have hblocks : Member.blocks style (indent ++ style.indentUnit) t.members ≠ [] := by
    rw [Member.blocks_eq_map]
    exact fun h => hne (List.map_eq_nil_iff.mp h)
  unfold lines Block.typeLines
  split
  · next h => exact absurd h hblocks
  · simp only [List.append_assoc, List.cons_append, List.nil_append]
    rfl

namespace Session

/-- A type of a session that is reached, if it has members, is written as its comment, its
annotations and its header, an empty line, and then one section after the other, one for each tag
in ascending order.  All members are in the sections, each in one, and each section has its heading
once. -/
theorem lines_eq_sections (actions : List Action) (a : Address) (u : CompilationUnit)
    (t : TypeDecl) (hfind : (empty.performAll actions).find? a = some (u, t))
    (hne : t.members ≠ []) (style : Style) (indent : String) :
    let inner := indent ++ style.indentUnit
    let tags := Sections.tags t.members
    let sections := Sections.lines style inner t.members true "" tags
    t.lines style indent =
        t.header.preamble indent ++ [indent ++ t.header.declaration ++ " \x7b", ""] ++ sections ++
          [indent ++ "\x7d"] ∧
      tags.Pairwise (fun s t => compare s t = .lt) ∧
      (∀ tag, tag ∈ tags ↔ ∃ m ∈ t.members, m.tag = tag) ∧
      (tags.flatMap (Sections.ofTag t.members)).Perm t.members ∧
      ∃ gaps : List (List String), gaps.length = tags.length ∧
        (∀ g ∈ gaps, g = [] ∨ g = [""]) ∧
        sections = (List.zipWith (fun gap tag =>
          gap ++ Sections.heading style inner (Category.titleOf tag) ++
            Sections.body style inner (Sections.ofTag t.members tag)) gaps tags).flatten := by
  intro inner tags sections
  have hkeeps := invariant_of_find? TypeDecl.invariant_keepsCategories hfind
  refine ⟨hkeeps.lines_eq hne style indent, Sections.pairwise_tags t.members,
    fun tag => Sections.mem_tags, ?_, Sections.lines_eq_flatten style inner t.members tags true ""⟩
  rw [Sections.flatMap_ofTag_tags]
  exact Member.inOrder_perm t.members

/-- A class with a field that has no category and a method of the category `01_Access` is written
in this way. -/
theorem lines_eq_sections_point :
    let point := empty.performAll
      [.openUnit "shapes" { kind := .classType, name := "Point" },
        .edit ⟨0, []⟩ (.field { type := .primitive "int", name := "x" }),
        .edit ⟨0, []⟩ (.method { returnType := .primitive "int", name := "getX", body := some ""
                                 options := { category := "01_Access" } })]
    ∃ u t, point.find? ⟨0, []⟩ = some (u, t) ∧ t.members.map Member.tag = ["", "01_Access"] ∧
      t.lines ⟨"  ", 40⟩ "" =
        t.header.preamble "" ++ ["" ++ t.header.declaration ++ " \x7b", ""] ++
          Sections.lines ⟨"  ", 40⟩ ("" ++ "  ") t.members true "" (Sections.tags t.members) ++
            ["" ++ "\x7d"] := by
  intro point
  have hpoint : (point.find? ⟨0, []⟩).map (fun r => r.2.members.map Member.tag) =
      some ["", "01_Access"] := rfl
  obtain ⟨⟨u, t⟩, hfind, htags⟩ := Option.map_eq_some_iff.mp hpoint
  have hne : t.members ≠ [] := by
    intro hnil
    simp [hnil] at htags
  exact ⟨u, t, hfind, htags, (lines_eq_sections _ _ u t hfind hne ⟨"  ", 40⟩ "").1⟩

end Session

end JavaScribe
