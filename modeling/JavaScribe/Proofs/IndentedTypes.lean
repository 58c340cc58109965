import JavaScribe.Proofs.UnbrokenLines

/-!
# Types at an indentation

A type is written at an indentation like anywhere else: the indentation stands before each of its
lines, and empty lines stay empty.  Its comment, its annotations, its declarations, the bodies of
its methods and the types inside it all follow this rule, and only banners do not, for their width
is that of the whole line.  So without titles a type is written alike at every depth
(`Session.lines_indented`).

`TypeDecl.Contains` says at which depth a type stands in another one, and its lines stand there in
one piece (`TypeDecl.Contains.exists_lines_eq_append`).
-/

set_option autoImplicit false

namespace JavaScribe

namespace Text

/-! ## Lines that are moved -/

/-- A line at an indentation; an empty line stays empty. -/
def indentLine (indent line : String) : String := if line = "" then "" else indent ++ line

variable {p i : String}

/-- A line that is not empty is moved by the indentation. -/
theorem indentLine_of_ne {line : String} (h : line ≠ "") : indentLine p line = p ++ line :=
  if_neg h

/-- An empty line stays empty. -/
theorem indentLine_empty (p : String) : indentLine p "" = "" := if_pos rfl

/-- A line that is written at an indentation is moved with it. -/
theorem indentLine_append {s : String} (hs : s ≠ "") : indentLine p (i ++ s) = p ++ i ++ s := by
  rw [indentLine_of_ne (by simp [hs]), String.append_assoc]

/-- A line of two parts, the last of them not empty, that is written at an indentation. -/
theorem indentLine_append_append (s : String) {e : String} (he : e ≠ "") :
    indentLine p (i ++ s ++ e) = p ++ i ++ s ++ e := by
  have h : indentLine p (i ++ (s ++ e)) = p ++ i ++ (s ++ e) := indentLine_append (by simp [he])
  simpa only [String.append_assoc] using h

/-- A line of a body at a deeper place is the moved line. -/
theorem ofList_placedLine_append (p i : String) (l : List Char) :
    String.ofList (placedLine (p ++ i).toList l) =
      indentLine p (String.ofList (placedLine i.toList l)) := by
  cases hl : l.all isBlank with
  | true =>
    rw [placedLine_of_all _ hl, placedLine_of_all _ hl]
    exact (indentLine_empty p).symm
  | false =>
    have hne : String.ofList (trimEnd isBlank l) ≠ "" := by
      rw [Ne, String.ofList_eq_empty_iff, trimEnd_eq_nil_iff, hl]
      exact Bool.false_ne_true
    rw [placedLine_of_not_all _ hl, placedLine_of_not_all _ hl, String.ofList_append,
      String.ofList_append, String.ofList_toList, String.ofList_toList, indentLine_append hne]

/-- A body at a deeper place has the moved lines. -/
theorem bodyLines_append (p i body : String) :
    bodyLines (p ++ i) body = (bodyLines i body).map (indentLine p) := by
  rw [bodyLines, bodyLines, List.map_map]
  exact List.map_congr_left fun l _ => ofList_placedLine_append p i l

end Text

open Text

namespace Javadoc

/-- A framed line at a deeper place is the moved line. -/
theorem framed_append (p i line : String) :
    framed (p ++ i) line = indentLine p (framed i line) := by
  rw [framed, framed]
  split
  · exact (indentLine_append (by decide)).symm
  · next hline =>
    exact (indentLine_append_append _ (mt String.isEmpty_iff.mpr hline)).symm

/-- A comment at a deeper place has the moved lines. -/
theorem layout_append (p i : String) (text : List String) (groups : List (List String)) :
    layout (p ++ i) text groups = (layout i text groups).map (indentLine p) := by
  unfold layout
  split
  · rfl
  · rw [List.map_singleton, indentLine_append_append _ (by decide), ← String.append_assoc]
  · have hframed : framed (p ++ i) = indentLine p ∘ framed i := funext (framed_append p i)
    rw [blockLines, blockLines, List.map_append, List.map_cons, List.map_map, List.map_singleton,
      ← hframed, indentLine_append (by decide), indentLine_append (by decide)]

end Javadoc

/-! ## Declarations that are moved -/

section Moved

variable {p i : String} (hp : '\n' ∉ p.toList) (hi : '\n' ∉ i.toList)

/-- Annotations at a deeper place have the moved lines. -/
theorem annotationLines_append (p i : String) (as : List Annotation) :
    annotationLines (p ++ i) as = (annotationLines i as).map (indentLine p) := by
  rw [annotationLines, annotationLines, List.map_map]
  apply List.map_congr_left
  intro a _
  have hne : a.text ≠ "" := by
    unfold Annotation.text
    split <;> simp
  exact (indentLine_append hne).symm

include hp hi

/-- What stands in front of a declaration has the moved lines at a deeper place. -/
theorem headLines_append (documentation : String) {tags : Javadoc.Tags} (as : List Annotation)
    (htags : ∀ line ∈ tags.groups.flatten, '\n' ∉ line.toList) :
    headLines (p ++ i) documentation tags as =
      (headLines i documentation tags as).map (indentLine p) := by
  have hpi : '\n' ∉ (p ++ i).toList := newline_not_mem_append.mpr ⟨hp, hi⟩
  rw [headLines, headLines, Javadoc.commentLines_eq hpi htags, Javadoc.commentLines_eq hi htags,
    Javadoc.layout_append, annotationLines_append, List.map_append]

/-- A field at a deeper place has the moved lines. -/
theorem Field.IsUnbroken.lines_append {f : Field} (h : f.IsUnbroken) :
    f.lines (p ++ i) = (f.lines i).map (indentLine p) := by
  have hhead := headLines_append hp hi f.documentation f.options.annotations
    h.newline_not_mem_of_mem_tags
  show headLines (p ++ i) f.documentation f.tags f.options.annotations ++ _ =
    (headLines i f.documentation f.tags f.options.annotations ++ _).map _
  rw [hhead, List.map_append, List.map_singleton, indentLine_append_append _ (by decide)]

omit hp hi in
/-- The body of a constructor or method has the moved lines at a deeper place. -/
theorem Executable.implementation_append (style : Style) (p i : String) (e : Executable) :
    e.implementation style (p ++ i) = (e.implementation style i).map (indentLine p) := by
  unfold implementation
  split
  · rw [List.map_singleton, indentLine_append_append _ (by decide)]
  · next body _ =>
    have hbody : Text.bodyLines (p ++ i ++ style.indentUnit) body =
        (Text.bodyLines (i ++ style.indentUnit) body).map (indentLine p) := by
      rw [String.append_assoc, bodyLines_append]
    rw [hbody]
    cases Text.bodyLines (i ++ style.indentUnit) body with
    | nil => exact congrArg (fun l => [l]) (indentLine_append_append _ (by decide)).symm
    | cons l ls =>
      simp only [List.map_cons, List.map_append, List.cons_append, List.map_nil]
      rw [indentLine_append_append _ (by decide), indentLine_append (by decide)]

/-- A constructor or method at a deeper place has the moved lines. -/
theorem Executable.IsUnbroken.lines_append {e : Executable} (h : e.IsUnbroken) (style : Style) :
    e.lines style (p ++ i) = (e.lines style i).map (indentLine p) := by
  have hhead := headLines_append hp hi e.shownDocumentation e.options.annotations
    h.newline_not_mem_of_mem_tags
  show headLines (p ++ i) e.shownDocumentation e.tags e.options.annotations ++ _ ++ _ =
    (headLines i e.shownDocumentation e.tags e.options.annotations ++ _ ++ _).map _
  rw [hhead, e.implementation_append, List.map_append, List.map_append, List.map_singleton,
    indentLine_empty]

/-- What stands in front of a type has the moved lines at a deeper place. -/
theorem TypeHeader.IsUnbroken.preamble_append {h : TypeHeader} (hh : h.IsUnbroken) :
    h.preamble (p ++ i) = (h.preamble i).map (indentLine p) :=
  headLines_append hp hi h.documentation h.annotations hh.newline_not_mem_of_mem_tags

end Moved

/-! ## Types that are moved -/

namespace Block

/-- The block with its lines at a further indentation. -/
def moved (p : String) (b : Block) : Block := { b with lines := b.lines.map (indentLine p) }

/-- Moving blocks does not change their order. -/
theorem inOrder_map_moved (p : String) (bs : List Block) :
    inOrder (bs.map (moved p)) = (inOrder bs).map (moved p) := by
  unfold inOrder
  refine (List.map_mergeSort fun a _ b _ => ?_).symm
  rfl

/-- Sections without titles are moved like their members. -/
theorem sectionLines_map_moved (style : Style) (p i : String) {bs : List Block}
    (hbs : ∀ b ∈ bs, b.category.title = "") (previous : String) (afterBlank : Bool) :
    sectionLines style (p ++ i) previous afterBlank (bs.map (moved p)) =
      (sectionLines style i previous afterBlank bs).map (indentLine p) := by
  induction bs generalizing previous afterBlank with
  | nil => rfl
  | cons b bs ih =>
    have htitle := hbs b List.mem_cons_self
    have hopening (indent : String) : sectionOpening style indent b.category afterBlank =
        if afterBlank then [] else [""] := by
      rw [sectionOpening, htitle]
      rfl
    have hgap : (if afterBlank then [] else [""]).map (indentLine p) =
        if afterBlank then [] else [""] := by
      cases afterBlank with
      | true => rfl
      | false => rw [if_neg Bool.false_ne_true, List.map_singleton, indentLine_empty]
    have hrest := ih (fun c hc => hbs c (List.mem_cons_of_mem b hc)) b.category.tag b.endsBlank
    rw [List.map_cons, sectionLines, sectionLines, List.map_append, List.map_append, ← hrest]
    simp only [moved, hopening]
    split
    · rfl
    · rw [hgap]

/-- Without banners a type has the moved lines if its members have. -/
theorem typeLines_map_moved (style : Style) {p i : String} (hp : '\n' ∉ p.toList)
    (hi : '\n' ∉ i.toList) {h : TypeHeader} (hh : h.IsUnbroken) {bs : List Block}
    (hbs : ∀ b ∈ bs, b.category.title = "") :
    typeLines style (p ++ i) h (bs.map (moved p)) =
      (typeLines style i h bs).map (indentLine p) := by
  have huntitled : ∀ b ∈ inOrder bs, b.category.title = "" := fun b hb =>
    hbs b (List.mem_mergeSort.mp hb)
  have hsections := sectionLines_map_moved style p (i ++ style.indentUnit) huntitled "" true
  rw [← String.append_assoc, ← inOrder_map_moved] at hsections
  unfold typeLines
  rw [hh.preamble_append hp hi, List.map_append]
  congr 1
  cases bs with
  | nil => rw [List.map_nil, List.map_singleton, indentLine_append_append _ (by decide)]
  | cons b bs =>
    simp only [List.map_cons, List.map_append, List.cons_append, List.map_nil] at hsections ⊢
    rw [hsections, indentLine_append_append _ (by decide), indentLine_append (by decide),
      indentLine_empty]

end Block

namespace TypeDecl

variable {t : TypeDecl} {style : Style}

/-- Whether no member of a type belongs to a category with a title. -/
def IsUntitled (t : TypeDecl) : Prop := ∀ m ∈ t.members, m.category.title = ""

/-- A type without titled categories that is written at a further indentation is moved there line
by line. -/
theorem lines_append (hunit : '\n' ∉ style.indentUnit.toList)
    (ht : t.Everywhere fun u => u.IsUntitled ∧ u.IsUnbroken) {p i : String}
    (hp : '\n' ∉ p.toList) (hi : '\n' ∉ i.toList) :
    t.lines style (p ++ i) = (t.lines style i).map (indentLine p) := by
  induction t using inductionOnNested generalizing i with
  | step t ih =>
    obtain ⟨huntitled, hunbroken⟩ := ht.1
    have hinner : '\n' ∉ (i ++ style.indentUnit).toList :=
      newline_not_mem_append.mpr ⟨hi, hunit⟩
    -- the margin stays in front while the indentation behind it grows with the depth
    have hblock : ∀ m ∈ t.members, m.block style (p ++ (i ++ style.indentUnit)) =
        (m.block style (i ++ style.indentUnit)).moved p := by
      intro m hm
      have hm' := hunbroken.members m hm
      cases m with
      | field f =>
        have hlines := Field.IsUnbroken.lines_append hp hinner hm'
        simp only [Member.block, Block.moved, hlines]
      | executable e =>
        have hlines := Executable.IsUnbroken.lines_append hp hinner hm' style
        simp only [Member.block, Block.moved, hlines]
      | type header identities members =>
        have hlines := ih ⟨header, identities, members⟩ hm (ht.nested hm) hinner
        unfold lines at hlines
        simp only [Member.block, Block.moved, hlines, List.map_append, List.map_singleton,
          indentLine_empty]
    have hblocks : Member.blocks style (p ++ (i ++ style.indentUnit)) t.members =
        (Member.blocks style (i ++ style.indentUnit) t.members).map (Block.moved p) := by
      rw [Member.blocks_eq_map, Member.blocks_eq_map, List.map_map]
      exact List.map_congr_left hblock
    unfold lines
    rw [String.append_assoc, hblocks]
    refine Block.typeLines_map_moved style hp hi hunbroken.header fun b hb => ?_
    obtain ⟨m, hm, rfl⟩ := Member.mem_blocks_iff.mp hb
    rw [Member.block_category]
    exact huntitled m hm

end TypeDecl

/-! ## Types inside types -/

/-- The indentation of what stands at a depth. -/
def Style.indentAt (style : Style) (indent : String) : Nat → String
  | 0 => indent
  | depth + 1 => style.indentAt (indent ++ style.indentUnit) depth

/-- An indentation consists of spaces and tabs if its units do. -/
theorem Style.isIndent_of_mem_indentAt {style : Style}
    (hunit : ∀ c ∈ style.indentUnit.toList, isIndent c = true) {indent : String}
    (hindent : ∀ c ∈ indent.toList, isIndent c = true) (depth : Nat) :
    ∀ c ∈ (style.indentAt indent depth).toList, isIndent c = true := by
  induction depth generalizing indent with
  | zero => exact hindent
  | succ depth ih =>
    apply ih
    rw [String.toList_append, List.forall_mem_append]
    exact ⟨hindent, hunit⟩

/-- The unit of indentation that is set consists of spaces and tabs. -/
theorem Settings.isIndent_of_mem_indentUnit (s : Settings) :
    ∀ c ∈ s.style.indentUnit.toList, isIndent c = true := by
  show ∀ c ∈ s.indent.toList, _
  unfold indent
  split
  · exact List.all_eq_true.mp (by decide)
  · intro c hc
    rw [String.toList_ofList] at hc
    rw [List.eq_of_mem_replicate hc]
    rfl

namespace Block

/-- The lines of a block are among those of the sections. -/
theorem exists_sectionLines_eq_append (style : Style) (indent : String) {bs : List Block}
    {b : Block} (hb : b ∈ bs) (previous : String) (afterBlank : Bool) :
    ∃ before after,
      sectionLines style indent previous afterBlank bs = before ++ b.lines ++ after := by
  induction bs generalizing previous afterBlank with
  | nil => exact absurd hb List.not_mem_nil
  | cons c bs ih =>
    rw [sectionLines]
    rcases List.mem_cons.mp hb with rfl | hb
    · exact ⟨_, _, rfl⟩
    · obtain ⟨before, after, h⟩ := ih hb c.category.tag c.endsBlank
      rw [h, ← List.append_assoc, ← List.append_assoc]
      exact ⟨_, _, rfl⟩

/-- The lines of a type with members are those in front of it, its declaration, its sections and its
closing brace. -/
theorem typeLines_of_ne_nil (style : Style) (indent : String) (h : TypeHeader) {bs : List Block}
    (hne : bs ≠ []) :
    typeLines style indent h bs =
      h.preamble indent ++ (indent ++ h.declaration ++ " \x7b") :: "" ::
        sectionLines style (indent ++ style.indentUnit) "" true (inOrder bs) ++
          [indent ++ "\x7d"] := by
  obtain ⟨b, bs, rfl⟩ := List.exists_cons_of_ne_nil hne
  rw [List.append_assoc]
  rfl

end Block

namespace TypeDecl

/-- The lines of a member stand among those of its type. -/
theorem exists_lines_eq_append_of_mem (style : Style) (indent : String) {t : TypeDecl} {m : Member}
    (hm : m ∈ t.members) :
    ∃ before after, t.lines style indent =
      before ++ (m.block style (indent ++ style.indentUnit)).lines ++ after := by
  have hblock : m.block style (indent ++ style.indentUnit) ∈
      Block.inOrder (Member.blocks style (indent ++ style.indentUnit) t.members) :=
    Member.mem_inOrder_blocks_iff.mpr ⟨m, hm, rfl⟩
  have hne : Member.blocks style (indent ++ style.indentUnit) t.members ≠ [] :=
    List.ne_nil_of_mem (Member.mem_blocks_iff.mpr ⟨m, hm, rfl⟩)
  obtain ⟨before, after, h⟩ := Block.exists_sectionLines_eq_append style
    (indent ++ style.indentUnit) hblock "" true
  refine ⟨t.header.preamble indent ++ (indent ++ t.header.declaration ++ " \x7b") :: "" :: before,
    after ++ [indent ++ "\x7d"], ?_⟩
  rw [lines, Block.typeLines_of_ne_nil _ _ _ hne, h]
  simp only [List.append_assoc, List.cons_append]

/-- Whether a type stands in another one, and how deep. -/
inductive Contains : TypeDecl → Nat → TypeDecl → Prop where
  | self (t : TypeDecl) : Contains t 0 t
  | inside {t u v : TypeDecl} {depth : Nat} : u.toMember ∈ t.members → Contains u depth v →
      Contains t (depth + 1) v

/-- What holds everywhere in a type holds everywhere in the types that it contains. -/
theorem Everywhere.of_contains {P : TypeDecl → Prop} {t v : TypeDecl} {depth : Nat}
    (ht : t.Everywhere P) (hv : t.Contains depth v) : v.Everywhere P := by
  induction hv with
  | self => exact ht
  | inside hu _ ih => exact ih (ht.nested hu)

/-- The lines of a type that stands in another one are among the lines of that one, in one piece. -/
theorem Contains.exists_lines_eq_append {t v : TypeDecl} {depth : Nat} (h : t.Contains depth v)
    (style : Style) (indent : String) :
    ∃ before after,
      t.lines style indent = before ++ v.lines style (style.indentAt indent depth) ++ after := by
  induction h generalizing indent with
  | self t =>
    refine ⟨[], [], ?_⟩
    rw [List.nil_append, List.append_nil, Style.indentAt]
  | @inside t u v depth hu _ ih =>
    obtain ⟨outerBefore, outerAfter, houter⟩ := exists_lines_eq_append_of_mem style indent hu
    obtain ⟨before, after, hinner⟩ := ih (indent ++ style.indentUnit)
    have hblock : (u.toMember.block style (indent ++ style.indentUnit)).lines =
      u.lines style (indent ++ style.indentUnit) ++ [""] := rfl
    refine ⟨outerBefore ++ before, after ++ [""] ++ outerAfter, ?_⟩
    rw [houter, hblock, hinner, Style.indentAt]
    simp only [List.append_assoc]

end TypeDecl

namespace Session

/-- A type of a session that is reached and has no titled categories is written at an indentation
with the indentation before each line that is not empty.  So is every type in it, at its depth, and
no line is broken. -/
theorem lines_indented (actions : List Action) (a : Address) (u : CompilationUnit) (t : TypeDecl)
    (hfind : (empty.performAll actions).find? a = some (u, t)) (s : Settings) (indent : String)
    (hindent : ∀ c ∈ indent.toList, isIndent c = true)
    (huntitled : t.Everywhere TypeDecl.IsUntitled) (hunbroken : t.Everywhere TypeDecl.IsUnbroken) :
    t.lines s.style indent = (t.lines s.style "").map (indentLine indent) ∧
      (∀ depth v, t.Contains depth v → ∃ before after, t.lines s.style indent =
        before ++ (v.lines s.style "").map (indentLine (s.style.indentAt indent depth)) ++
          after) ∧
      Text.lines (unlines (t.lines s.style indent)) = t.lines s.style indent := by
  have hunit := s.isIndent_of_mem_indentUnit
  have hunitLine := newline_not_mem_of_isIndent hunit
  have hmoved {v : TypeDecl} (huntitled : v.Everywhere TypeDecl.IsUntitled)
      (hunbroken : v.Everywhere TypeDecl.IsUnbroken) {p : String}
      (hp : ∀ c ∈ p.toList, isIndent c = true) :
      v.lines s.style p = (v.lines s.style "").map (indentLine p) := by
    have h := TypeDecl.lines_append hunitLine (huntitled.and hunbroken)
      (newline_not_mem_of_isIndent hp) (i := "") (by decide)
    rwa [String.append_empty] at h
  refine ⟨hmoved huntitled hunbroken hindent, ?inside, ?unbroken⟩
  case inside =>
    intro depth v hv
    obtain ⟨before, after, h⟩ := hv.exists_lines_eq_append s.style indent
    refine ⟨before, after, ?_⟩
    rw [h, hmoved (huntitled.of_contains hv) (hunbroken.of_contains hv)
      (Style.isIndent_of_mem_indentAt hunit hindent depth)]
  case unbroken =>
    have hnamed := everywhere_of_find? TypeDecl.invariant_isNamed hfind
    have hcategories := everywhere_of_find? TypeDecl.invariant_keepsCategories hfind
    exact TypeDecl.lines_unlines_lines hunitLine (hnamed.and (hcategories.and hunbroken))
      (newline_not_mem_of_isIndent hindent)

/-- A class in a class is written four blanks further in, and both come one tab further in together;
the empty line in the body of its method stays empty. -/
theorem lines_indented_shape :
    let types : List Action :=
      [.openUnit "shapes" { kind := .classType, name := "Shape", documentation := "A.\n\nB." },
        .edit ⟨0, []⟩ (.nestedType { kind := .classType, name := "Point", see := ["Shape"] })]
    let method : Action := .edit ⟨0, ["Point"]⟩
      (.method { returnType := .primitive "void", name := "move", body := some "a();\n\n  b();" })
    let shapes := empty.performAll (types ++ [method])
    let style := (Settings.withBanners 80).style
    ∃ u t v, shapes.find? ⟨0, []⟩ = some (u, t) ∧ t.Contains 1 v ∧
      v.members.map (fun m => (m.lines style "").1) =
        [["void move() \x7b", "    a();", "", "      b();", "\x7d", ""]] ∧
      t.lines style "\t" = (t.lines style "").map (indentLine "\t") ∧
      ∃ before after, t.lines style "\t" =
        before ++ (v.lines style "").map (indentLine "\t    ") ++ after := by
  intro types method shapes style
  let move : Executable := ⟨.method (.primitive "void") "", "move", "", [], [],
    some "a();\n\n  b();", .untitled, {}⟩
  let point : TypeDecl := ⟨⟨.classType, "Point", .empty, [], "", "", [], ["Shape"], .untitled, none,
    [], [], []⟩, [.method "move" []], [.executable move]⟩
  let shape : TypeDecl := ⟨⟨.classType, "Shape", .empty, [], "A.\n\nB.", "", [], [], .untitled,
    none, [], [], []⟩, [.type "Point"], [point.toMember]⟩
  let empties : TypeDecl :=
    { shape with members := [TypeDecl.toMember { point with identities := [], members := [] }] }
  have hempties : empty.performAll types = ⟨[⟨empties, .empty "shapes", []⟩]⟩ := rfl
  have hfind : shapes.find? ⟨0, []⟩ = some (⟨shape, .empty "shapes", []⟩, shape) := by
    show (empty.performAll (types ++ [method])).find? ⟨0, []⟩ = _
    rw [performAll_concat, hempties]
    rfl
  have hoptions : MemberOptions.IsUnbroken {} := ⟨by simp, by decide, by simp, by simp⟩
  have hmove : move.IsUnbroken :=
    ⟨by simpa [move, ExecutableForm.written] using .primitive (by decide) (by simp), by simp [move],
      hoptions⟩
  have hpoint : point.IsUnbroken :=
    ⟨⟨by decide, by decide, by simp [point], by simp [point], by simp [point], by simp [point],
      by simp [point]⟩, List.forall_mem_singleton.mpr hmove⟩
  have hshapeUnbroken : shape.IsUnbroken :=
    ⟨⟨by decide, by decide, by simp [shape], by simp [shape], by simp [shape], by simp [shape],
      by simp [shape]⟩, List.forall_mem_singleton.mpr trivial⟩
  have hnested {v : TypeDecl} (hv : v.toMember ∈ shape.members) : v = point :=
    TypeDecl.toMember_inj.mp (List.mem_singleton.mp hv)
  have hinner {v : TypeDecl} : v.toMember ∉ point.members := by
    simp [point, TypeDecl.toMember]
  have hunbroken : shape.Everywhere TypeDecl.IsUnbroken := by
    refine .of_nested hshapeUnbroken fun v hv => ?_
    rw [hnested hv]
    exact .of_nested hpoint fun v hv => absurd hv hinner
  have huntitled : shape.Everywhere TypeDecl.IsUntitled := by
    refine .of_nested (List.forall_mem_singleton.mpr rfl) fun v hv => ?_
    rw [hnested hv]
    exact .of_nested (List.forall_mem_singleton.mpr rfl) fun v hv => absurd hv hinner
  have hcontains : shape.Contains 1 point := .inside List.mem_cons_self (.self point)
  have hindent : ∀ c ∈ "\t".toList, isIndent c = true := List.all_eq_true.mp (by decide)
  obtain ⟨hlines, hinside, -⟩ := lines_indented _ _ _ shape hfind (Settings.withBanners 80) "\t"
    hindent huntitled hunbroken
  have hmoveLines : move.lines style "" =
      ["void move() \x7b", "    a();", "", "      b();", "\x7d", ""] := by decide
  exact ⟨_, shape, point, hfind, hcontains, congrArg (fun ls => [ls]) hmoveLines, hlines,
    hinside 1 point hcontains⟩

end Session

end JavaScribe
