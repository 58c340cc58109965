import JavaScribe.Proofs.BannerWidth
import JavaScribe.Proofs.CommentContents
import JavaScribe.Proofs.FormattedBodies
import JavaScribe.Proofs.MemberHistory
import JavaScribe.Proofs.Sections
import JavaScribe.Proofs.WrittenTypes

/-!
# Lines that are not broken

A type is written as a list of lines, and each of them should be one line of the source file.  A few
texts are written as they were given and could break the line that they stand in: the values of
fields, the parameters of annotations, what the see, since and author tags say, and the names of
primitive types, which nobody checks.  `TypeDecl.IsUnbroken` asks just these to hold no newline.
Everything else in a line is a name that was checked, a word, or a text that was put on one line
before.  So no line is broken (`TypeDecl.newline_not_mem_of_mem_lines`), and the lines of a type are
the lines of its text.
-/

set_option autoImplicit false

namespace JavaScribe

open Text

/-! ## Texts that are written as they were given -/

/-- Whether a type can be formed, and the names of the primitive types in it hold no newline. -/
inductive TypeExpr.IsUnbroken : TypeExpr → Prop where
  | reference {name package : String} {arguments : List TypeExpr} {t : TypeExpr} :
    reference name package arguments = .ok t → (∀ s ∈ arguments, IsUnbroken s) → IsUnbroken t
  | primitive {name package : String} {arguments : List TypeExpr} :
    '\n' ∉ name.toList → (∀ s ∈ arguments, IsUnbroken s) →
    IsUnbroken (named name package arguments true)
  | variableNamed {name : String} {t : TypeExpr} : variableNamed name = .ok t → IsUnbroken t
  | wildcard (upper : Bool) : IsUnbroken (wildcard upper)
  | bounded (upper : Bool) {bound : TypeExpr} : IsUnbroken bound → IsUnbroken (bounded upper bound)
  | arrayOf {component t : TypeExpr} {dimensions : Int} :
    arrayOf component dimensions = .ok t → IsUnbroken component → IsUnbroken t

/-- Whether an annotation is written on one line. -/
structure Annotation.IsUnbroken (a : Annotation) : Prop where
  type : a.type.IsUnbroken
  parameters : '\n' ∉ a.parameters.toList

/-- Whether a parameter is written on one line. -/
structure Parameter.IsUnbroken (p : Parameter) : Prop where
  name : isIdentifier p.name = true
  type : p.type.IsUnbroken
  annotations : ∀ a ∈ p.annotations, a.IsUnbroken

/-- Whether a type parameter is written on one line. -/
structure TypeParameter.IsUnbroken (p : TypeParameter) : Prop where
  name : isIdentifier p.name = true
  bounds : ∀ t ∈ p.bounds, t.IsUnbroken

/-- Whether the options of a member bring no line break into its declaration or comment. -/
structure MemberOptions.IsUnbroken (o : MemberOptions) : Prop where
  see : ∀ text ∈ o.see, '\n' ∉ text.toList
  since : '\n' ∉ o.since.toList
  typeParameters : ∀ p ∈ o.typeParameters, p.IsUnbroken
  annotations : ∀ a ∈ o.annotations, a.IsUnbroken

/-- Whether a field is declared on one line. -/
structure Field.IsUnbroken (f : Field) : Prop where
  type : f.type.IsUnbroken
  value : '\n' ∉ f.value.toList
  options : f.options.IsUnbroken

/-- Whether a constructor or method is declared on one line. -/
structure Executable.IsUnbroken (e : Executable) : Prop where
  result : ∀ t ∈ e.form.written, t.IsUnbroken
  parameters : ∀ p ∈ e.parameters, p.IsUnbroken
  options : e.options.IsUnbroken

/-- Whether a type is declared on one line, and its comment has one line for each tag. -/
structure TypeHeader.IsUnbroken (h : TypeHeader) : Prop where
  see : ∀ text ∈ h.see, '\n' ∉ text.toList
  since : '\n' ∉ h.since.toList
  authors : ∀ text ∈ h.authors, '\n' ∉ text.toList
  superclass : ∀ t ∈ h.superclass, t.IsUnbroken
  interfaces : ∀ t ∈ h.interfaces, t.IsUnbroken
  typeParameters : ∀ p ∈ h.typeParameters, p.IsUnbroken
  annotations : ∀ a ∈ h.annotations, a.IsUnbroken

/-- Whether nothing that is said of a member breaks a line; a nested type speaks for itself. -/
def Member.IsUnbroken : Member → Prop
  | .field f => f.IsUnbroken
  | .executable e => e.IsUnbroken
  | .type .. => True

/-- Whether nothing that is said of a type or of its members breaks a line. -/
structure TypeDecl.IsUnbroken (t : TypeDecl) : Prop where
  header : t.header.IsUnbroken
  members : ∀ m ∈ t.members, m.IsUnbroken

/-! ## Names -/

namespace TypeDecl

/-- Whether a type and its members have the names of declarations. -/
structure IsNamed (t : TypeDecl) : Prop where
  header : isIdentifier t.header.name = true
  members : ∀ m ∈ t.members, isIdentifier m.name = true

/-- That names are legal is an invariant. -/
theorem invariant_isNamed : Invariant IsNamed where
  declare {s site p e} h := by
    obtain ⟨-, hname, -, category, accepted, -, -, rfl⟩ := TypeSpec.declare_eq_ok_iff.mp h
    exact ⟨requireIdentifier_eq_ok_iff.mp hname, fun m hm => absurd hm List.not_mem_nil⟩
  edit {t p ed e} he ht := by
    have hheader : isIdentifier e.type.header.name = true := by
      rw [TypeHeader.name_eq_of_declared_eq (edit_declared_eq he)]
      exact ht.header
    refine ⟨hheader, fun m hm => ?_⟩
    cases hdeclares : ed.declaresMember with
    | false =>
      obtain ⟨header, htype, -⟩ := edit_type_of_not_declaresMember hdeclares he
      rw [htype] at hm
      exact ht.members m hm
    | true =>
      obtain ⟨m', hm', htype⟩ := declares_of_edit hdeclares he
      rw [htype] at hm
      rcases List.mem_append.mp hm with hm | hm
      · exact ht.members m hm
      · rw [List.mem_singleton.mp hm]
        cases hm' with
        | field hname | method hname => exact hname
        | nestedType _ hname => exact hname
        | constructor => exact ht.header
  nested {header identities before after v v'} h ht := by
    have hname : v'.toMember.name = v.toMember.name := TypeHeader.name_eq_of_declared_eq h
    refine ⟨ht.header, fun m hm => ?_⟩
    simp only [List.mem_append, List.mem_cons] at hm
    rcases hm with hm | rfl | hm
    · exact ht.members m (List.mem_append_left _ hm)
    · rw [hname]
      exact ht.members v.toMember (List.mem_append_right _ List.mem_cons_self)
    · exact ht.members m (List.mem_append_right _ (List.mem_cons_of_mem _ hm))

end TypeDecl

/-! ## Parts of a line -/

/-- There is no newline in two texts together just if there is none in either. -/
theorem Text.newline_not_mem_append {s t : String} :
    '\n' ∉ (s ++ t).toList ↔ '\n' ∉ s.toList ∧ '\n' ∉ t.toList := by
  rw [String.toList_append, List.mem_append, not_or]

/-- There is no newline in texts with a separator between them if there is none in the parts. -/
theorem Text.newline_not_mem_intercalate {sep : String} {ls : List String}
    (hsep : '\n' ∉ sep.toList) (h : ∀ l ∈ ls, '\n' ∉ l.toList) :
    '\n' ∉ (sep.intercalate ls).toList := by
  rw [String.toList_intercalate, mem_intercalate_iff hsep]
  intro hmem
  obtain ⟨cs, hcs, hnewline⟩ := List.mem_flatten.mp hmem
  obtain ⟨l, hl, rfl⟩ := List.mem_map.mp hcs
  exact h l hl hnewline

/-- There is no newline in the texts of some things if there is none in each. -/
theorem Text.newline_not_mem_intercalate_map {α : Type} {sep : String} {f : α → String}
    {as : List α} (hsep : '\n' ∉ sep.toList) (h : ∀ a ∈ as, '\n' ∉ (f a).toList) :
    '\n' ∉ (sep.intercalate (as.map f)).toList :=
  newline_not_mem_intercalate hsep (List.forall_mem_map.mpr h)

/-- There are no newlines in identifiers. -/
theorem newline_not_mem_of_isIdentifier {name : String} (h : isIdentifier name = true) :
    '\n' ∉ name.toList := (Javadoc.Tags.plain_of_isIdentifier h).2

namespace TypeExpr

/-- The texts of a list are those of its types. -/
theorem texts_eq_map (ts : List TypeExpr) : texts ts = ts.map text := by
  induction ts with
  | nil => rfl
  | cons t ts ih => rw [texts, ih, List.map_cons]

/-- A named type is written on one line if its name and arguments are. -/
theorem newline_not_mem_text_named {name package : String} {arguments : List TypeExpr}
    {primitive : Bool} (hname : '\n' ∉ name.toList)
    (harguments : ∀ s ∈ arguments, '\n' ∉ s.text.toList) :
    '\n' ∉ (named name package arguments primitive).text.toList := by
  have hlist : '\n' ∉ (", ".intercalate (texts arguments)).toList := by
    rw [texts_eq_map]
    exact newline_not_mem_intercalate_map (by decide) harguments
  rw [text_named]
  split
  · exact hname
  · simp only [newline_not_mem_append]
    exact ⟨⟨⟨hname, by decide⟩, hlist⟩, by decide⟩

/-- The text of an unbroken type is one line. -/
theorem IsUnbroken.newline_not_mem_text {t : TypeExpr} (h : t.IsUnbroken) :
    '\n' ∉ t.text.toList := by
  induction h with
  | reference hok _ ih =>
    obtain ⟨hparts, -, rfl⟩ := reference_eq_ok_iff.mp hok
    have hname := isNameText_of_isDotted (isDotted_of_dottedParts hparts)
    exact newline_not_mem_text_named
      (fun hmem => absurd (hname.2 '\n' hmem) (by decide)) ih
  | primitive hname _ ih => exact newline_not_mem_text_named hname ih
  | variableNamed hok =>
    obtain ⟨hname, rfl⟩ := variableNamed_eq_ok_iff.mp hok
    exact newline_not_mem_of_isIdentifier hname
  | wildcard =>
    rw [text]
    decide
  | bounded upper _ ih =>
    rw [text, newline_not_mem_append]
    refine ⟨?_, ih⟩
    cases upper <;> decide
  | arrayOf hok _ ih =>
    obtain ⟨-, rfl⟩ := arrayOf_eq_ok_iff.mp hok
    rw [text_array, newline_not_mem_append]
    refine ⟨ih, ?_⟩
    rw [brackets, String.toList_ofList]
    simp

end TypeExpr

/-- The text of a list of unbroken types is one line. -/
theorem newline_not_mem_commaList {ts : List TypeExpr} (h : ∀ t ∈ ts, t.IsUnbroken) :
    '\n' ∉ (commaList ts).toList := by
  rw [commaList, TypeExpr.texts_eq_map]
  exact newline_not_mem_intercalate_map (by decide) fun t ht => (h t ht).newline_not_mem_text

/-- The text of an unbroken annotation is one line. -/
theorem Annotation.IsUnbroken.newline_not_mem_text {a : Annotation} (h : a.IsUnbroken) :
    '\n' ∉ a.text.toList := by
  have htype := h.type.newline_not_mem_text
  rw [text]
  split
  · rw [newline_not_mem_append]
    exact ⟨by decide, htype⟩
  · simp only [newline_not_mem_append]
    exact ⟨⟨⟨⟨by decide, htype⟩, by decide⟩, h.parameters⟩, by decide⟩

/-- The text of an unbroken parameter is one line. -/
theorem Parameter.IsUnbroken.newline_not_mem_text {p : Parameter} (h : p.IsUnbroken) :
    '\n' ∉ p.text.toList := by
  rw [text]
  apply newline_not_mem_intercalate (by decide)
  intro l hl
  rcases List.mem_append.mp hl with hl | hl
  · obtain ⟨a, ha, rfl⟩ := List.mem_map.mp hl
    exact (h.annotations a ha).newline_not_mem_text
  · simp only [List.mem_cons, List.not_mem_nil, or_false] at hl
    rcases hl with rfl | rfl
    · exact h.type.newline_not_mem_text
    · exact newline_not_mem_of_isIdentifier h.name

/-- The text of an unbroken type parameter is one line. -/
theorem TypeParameter.IsUnbroken.newline_not_mem_text {p : TypeParameter} (h : p.IsUnbroken) :
    '\n' ∉ p.text.toList := by
  have hname := newline_not_mem_of_isIdentifier h.name
  have hbounds : '\n' ∉ (" & ".intercalate (TypeExpr.texts p.bounds)).toList := by
    rw [TypeExpr.texts_eq_map]
    exact newline_not_mem_intercalate_map (by decide) fun t ht =>
      (h.bounds t ht).newline_not_mem_text
  rw [text]
  split
  · exact hname
  · simp only [newline_not_mem_append]
    exact ⟨⟨hname, by decide⟩, hbounds⟩

/-- The text of unbroken type parameters is one line. -/
theorem newline_not_mem_typeParameterList {ps : List TypeParameter} (h : ∀ p ∈ ps, p.IsUnbroken) :
    '\n' ∉ (typeParameterList ps).toList := by
  have hlist : '\n' ∉ (", ".intercalate (ps.map TypeParameter.text)).toList :=
    newline_not_mem_intercalate_map (by decide) fun p hp => (h p hp).newline_not_mem_text
  rw [typeParameterList]
  split
  · decide
  · simp only [newline_not_mem_append]
    exact ⟨⟨by decide, hlist⟩, by decide⟩

/-- The text of modifiers is one line. -/
theorem newline_not_mem_modifierText (ms : List Modifier) : '\n' ∉ (modifierText ms).toList := by
  apply newline_not_mem_intercalate_map (by decide)
  intro m _
  cases m <;> decide

/-- Words with blanks between them are one line if each of them is. -/
theorem newline_not_mem_spaced {parts : List String} (h : ∀ part ∈ parts, '\n' ∉ part.toList) :
    '\n' ∉ (spaced parts).toList :=
  newline_not_mem_intercalate (by decide) fun l hl => h l (List.mem_filter.mp hl).1

/-! ## Declarations -/

/-- An unbroken field is declared on one line. -/
theorem Field.IsUnbroken.newline_not_mem_declaration {f : Field} (h : f.IsUnbroken)
    (hname : isIdentifier f.name = true) : '\n' ∉ f.declaration.toList := by
  rw [declaration, newline_not_mem_append]
  constructor
  · apply newline_not_mem_spaced
    simp only [List.forall_mem_cons]
    exact ⟨newline_not_mem_modifierText f.modifiers, h.type.newline_not_mem_text,
      newline_not_mem_of_isIdentifier hname, by simp⟩
  · split
    · decide
    · rw [newline_not_mem_append]
      exact ⟨by decide, h.value⟩

/-- An unbroken constructor or method is declared on one line. -/
theorem Executable.IsUnbroken.newline_not_mem_declaration {e : Executable} (h : e.IsUnbroken)
    (hname : isIdentifier e.name = true) : '\n' ∉ e.declaration.toList := by
  have hresult : '\n' ∉ e.resultText.toList := by
    have hwritten := h.result
    rw [resultText]
    split
    · decide
    · next returnType returnDoc hform =>
      rw [hform] at hwritten
      exact (hwritten returnType List.mem_cons_self).newline_not_mem_text
  have hparameters : '\n' ∉ (", ".intercalate (e.parameters.map Parameter.text)).toList :=
    newline_not_mem_intercalate_map (by decide) fun p hp =>
      (h.parameters p hp).newline_not_mem_text
  simp only [declaration, newline_not_mem_append]
  refine ⟨⟨⟨?_, by decide⟩, hparameters⟩, by decide⟩
  apply newline_not_mem_spaced
  simp only [List.forall_mem_cons]
  exact ⟨newline_not_mem_modifierText e.modifiers,
    newline_not_mem_typeParameterList h.options.typeParameters, hresult,
    newline_not_mem_of_isIdentifier hname, by simp⟩

namespace TypeHeader

/-- What an unbroken type extends and implements is written on one line. -/
theorem IsUnbroken.newline_not_mem_heritage {h : TypeHeader} (hh : h.IsUnbroken) :
    '\n' ∉ h.heritage.toList := by
  have hinterfaces := newline_not_mem_commaList hh.interfaces
  have hsuperclass := hh.superclass
  rw [heritage]
  split
  · rw [newline_not_mem_append]
    constructor
    · split
      · next t ht =>
        rw [newline_not_mem_append]
        exact ⟨by decide, (hsuperclass t ht).newline_not_mem_text⟩
      · decide
    · split
      · decide
      · rw [newline_not_mem_append]
        exact ⟨by decide, hinterfaces⟩
  · split
    · decide
    · rw [newline_not_mem_append]
      exact ⟨by decide, hinterfaces⟩

/-- An unbroken type is declared on one line. -/
theorem IsUnbroken.newline_not_mem_declaration {h : TypeHeader} (hh : h.IsUnbroken)
    (hname : isIdentifier h.name = true) : '\n' ∉ h.declaration.toList := by
  rw [declaration, newline_not_mem_append]
  refine ⟨?_, hh.newline_not_mem_heritage⟩
  have hword : '\n' ∉ h.kind.word.toList := by cases h.kind <;> decide
  apply newline_not_mem_spaced
  simp only [List.forall_mem_cons, newline_not_mem_append]
  exact ⟨newline_not_mem_modifierText h.modifiers, hword,
    ⟨newline_not_mem_of_isIdentifier hname, newline_not_mem_typeParameterList hh.typeParameters⟩,
    by simp⟩

end TypeHeader

/-! ## Lines -/

/-- What stands before a declaration: its comment and its annotations. -/
def headLines (indent documentation : String) (tags : Javadoc.Tags) (as : List Annotation) :
    List String :=
  Javadoc.commentLines indent documentation tags ++ annotationLines indent as

/-- What the tags of the comment of a field say. -/
def Field.tags (f : Field) : Javadoc.Tags := { see := f.options.see, since := f.options.since }

/-- The tags of an unbroken field are single lines. -/
theorem Field.IsUnbroken.newline_not_mem_of_mem_tags {f : Field} (h : f.IsUnbroken) :
    ∀ line ∈ f.tags.groups.flatten, '\n' ∉ line.toList := by
  apply Javadoc.Tags.newline_not_mem_of_mem_groups
  · simp [tags]
  · simp [tags]
  · simp only [tags, List.forall_mem_append, List.forall_mem_cons]
    exact ⟨h.options.see, h.options.since, by simp⟩

/-- The tags of an unbroken constructor or method are single lines. -/
theorem Executable.IsUnbroken.newline_not_mem_of_mem_tags {e : Executable} (h : e.IsUnbroken) :
    ∀ line ∈ e.tags.groups.flatten, '\n' ∉ line.toList := by
  apply Javadoc.Tags.newline_not_mem_of_mem_groups
  · exact fun p hp => (h.options.typeParameters p hp).name
  · exact fun p hp => (h.parameters p hp).name
  · simp only [tags, List.forall_mem_append, List.forall_mem_cons]
    exact ⟨h.options.see, h.options.since, by simp⟩

/-- The tags of an unbroken type are single lines. -/
theorem TypeHeader.IsUnbroken.newline_not_mem_of_mem_tags {h : TypeHeader} (hh : h.IsUnbroken) :
    ∀ line ∈ h.tags.groups.flatten, '\n' ∉ line.toList := by
  apply Javadoc.Tags.newline_not_mem_of_mem_groups
  · exact fun p hp => (hh.typeParameters p hp).name
  · simp [tags]
  · simp only [tags, List.forall_mem_append, List.forall_mem_cons]
    exact ⟨hh.see, hh.since, hh.authors⟩

section Lines

variable {style : Style} {indent : String} (hindent : '\n' ∉ indent.toList)

include hindent

/-- The lines in front of an unbroken declaration are single lines. -/
theorem newline_not_mem_of_mem_headLines (documentation : String) {tags : Javadoc.Tags}
    {as : List Annotation} (htags : ∀ line ∈ tags.groups.flatten, '\n' ∉ line.toList)
    (has : ∀ a ∈ as, a.IsUnbroken) :
    ∀ line ∈ headLines indent documentation tags as, '\n' ∉ line.toList := by
  intro line hline
  rcases List.mem_append.mp hline with hline | hline
  · rw [Javadoc.commentLines_eq hindent htags] at hline
    refine Javadoc.newline_not_mem_of_mem_layout hindent ?_ line hline
    rw [List.forall_mem_append]
    exact ⟨fun line h => Javadoc.newline_not_mem_of_mem_textLines h, htags⟩
  · obtain ⟨a, ha, rfl⟩ := List.mem_map.mp hline
    rw [newline_not_mem_append]
    exact ⟨hindent, (has a ha).newline_not_mem_text⟩

/-- The lines of a body are single lines. -/
theorem Text.newline_not_mem_of_mem_bodyLines (body : String) :
    ∀ line ∈ bodyLines indent body, '\n' ∉ line.toList := by
  intro line hline
  rw [bodyLines_eq] at hline
  obtain ⟨l, hl, rfl⟩ := List.mem_map.mp hline
  rw [String.toList_ofList]
  exact newline_not_mem_of_mem_bodyBlock hindent hl

/-- The lines of an unbroken field are single lines. -/
theorem Field.IsUnbroken.newline_not_mem_of_mem_lines {f : Field} (h : f.IsUnbroken)
    (hname : isIdentifier f.name = true) : ∀ line ∈ f.lines indent, '\n' ∉ line.toList := by
  have hdeclaration := h.newline_not_mem_declaration hname
  have hhead := newline_not_mem_of_mem_headLines hindent f.documentation
    h.newline_not_mem_of_mem_tags h.options.annotations
  intro line hline
  rcases List.mem_append.mp hline with hline | hline
  · exact hhead line hline
  · rw [List.mem_singleton.mp hline]
    simp only [newline_not_mem_append]
    exact ⟨⟨hindent, hdeclaration⟩, by decide⟩

/-- The declaration and body of an unbroken constructor or method are single lines. -/
theorem Executable.IsUnbroken.newline_not_mem_of_mem_implementation {e : Executable}
    (h : e.IsUnbroken) (hname : isIdentifier e.name = true)
    (hunit : '\n' ∉ style.indentUnit.toList) :
    ∀ line ∈ e.implementation style indent, '\n' ∉ line.toList := by
  have hdeclaration := h.newline_not_mem_declaration hname
  have hinner : '\n' ∉ (indent ++ style.indentUnit).toList :=
    newline_not_mem_append.mpr ⟨hindent, hunit⟩
  have hline (s : String) (hs : '\n' ∉ s.toList) :
      '\n' ∉ (indent ++ e.declaration ++ s).toList := by
    simp only [newline_not_mem_append]
    exact ⟨⟨hindent, hdeclaration⟩, hs⟩
  unfold implementation
  split
  · simpa using hline ";" (by decide)
  · next body hbody =>
    have hbodyLines := Text.newline_not_mem_of_mem_bodyLines hinner body
    split
    · simpa using hline " \x7b\x7d" (by decide)
    · next ls hls =>
      simp only [List.cons_append, List.forall_mem_cons, List.forall_mem_append]
      refine ⟨hline _ (by decide), hbodyLines, ?_, by simp⟩
      rw [newline_not_mem_append]
      exact ⟨hindent, by decide⟩

/-- The lines of an unbroken constructor or method are single lines. -/
theorem Executable.IsUnbroken.newline_not_mem_of_mem_lines {e : Executable} (h : e.IsUnbroken)
    (hname : isIdentifier e.name = true) (hunit : '\n' ∉ style.indentUnit.toList) :
    ∀ line ∈ e.lines style indent, '\n' ∉ line.toList := by
  have hhead := newline_not_mem_of_mem_headLines hindent e.shownDocumentation
    h.newline_not_mem_of_mem_tags h.options.annotations
  have himplementation := h.newline_not_mem_of_mem_implementation hindent hname hunit
  unfold headLines at hhead
  unfold lines
  rw [List.forall_mem_append, List.forall_mem_append]
  exact ⟨⟨hhead, himplementation⟩, by simp⟩

/-- The lines of sections are single lines if those of their blocks and all titles are. -/
theorem Block.newline_not_mem_of_mem_sectionLines {bs : List Block}
    (hbs : ∀ b ∈ bs, '\n' ∉ b.category.title.toList ∧ ∀ line ∈ b.lines, '\n' ∉ line.toList)
    (previous : String) (afterBlank : Bool) :
    ∀ line ∈ sectionLines style indent previous afterBlank bs, '\n' ∉ line.toList := by
  induction bs generalizing previous afterBlank with
  | nil => simp [sectionLines]
  | cons b bs ih =>
    obtain ⟨htitle, hlines⟩ := hbs b List.mem_cons_self
    have hrest := ih (fun c hc => hbs c (List.mem_cons_of_mem b hc)) b.category.tag b.endsBlank
    have hgap : ∀ line ∈ (if afterBlank then [] else [""]), '\n' ∉ line.toList := by
      cases afterBlank <;> simp
    have hbanner : ∀ line ∈ style.banner b.category.title indent, '\n' ∉ line.toList := by
      simp only [Style.banner, List.forall_mem_cons]
      exact ⟨Style.newline_not_mem_bannerRule hindent,
        Style.newline_not_mem_bannerCaption hindent htitle,
        Style.newline_not_mem_bannerRule hindent, by simp⟩
    have hopening : ∀ line ∈ (if b.category.tag = previous then []
        else sectionOpening style indent b.category afterBlank), '\n' ∉ line.toList := by
      simp only [sectionOpening]
      split
      · simp
      · split
        · exact hgap
        · simp only [List.forall_mem_append]
          exact ⟨⟨hgap, hbanner⟩, by simp⟩
    simp only [sectionLines, List.forall_mem_append]
    exact ⟨⟨hopening, hlines⟩, hrest⟩

end Lines

/-- The blocks in order are those of the members. -/
theorem Member.mem_inOrder_blocks_iff {style : Style} {indent : String} {ms : List Member}
    {b : Block} :
    b ∈ Block.inOrder (blocks style indent ms) ↔ ∃ m ∈ ms, m.block style indent = b := by
  rw [Block.inOrder, List.mem_mergeSort, mem_blocks_iff]

namespace TypeDecl

variable {style : Style} {t : TypeDecl}

/-- No line of a type is broken, if nothing that it is written from breaks one. -/
theorem newline_not_mem_of_mem_lines (hunit : '\n' ∉ style.indentUnit.toList)
    (ht : t.Everywhere fun u => u.IsNamed ∧ u.KeepsCategories ∧ u.IsUnbroken) {indent : String}
    (hindent : '\n' ∉ indent.toList) : ∀ line ∈ t.lines style indent, '\n' ∉ line.toList := by
  -- nested types are written further in, so the induction is for all indentations
  induction t using inductionOnNested generalizing indent with
  | step t ih =>
    obtain ⟨hnamed, hcategories, hunbroken⟩ := ht.1
    have hinner : '\n' ∉ (indent ++ style.indentUnit).toList :=
      newline_not_mem_append.mpr ⟨hindent, hunit⟩
    have hhead := newline_not_mem_of_mem_headLines hindent t.header.documentation
      hunbroken.header.newline_not_mem_of_mem_tags hunbroken.header.annotations
    have hdeclaration := hunbroken.header.newline_not_mem_declaration hnamed.header
    have hmembers : ∀ m ∈ t.members,
        ∀ line ∈ (m.block style (indent ++ style.indentUnit)).lines, '\n' ∉ line.toList := by
      intro m hm
      have hname := hnamed.members m hm
      have hm' := hunbroken.members m hm
      cases m with
      | field f => exact Field.IsUnbroken.newline_not_mem_of_mem_lines hinner hm' hname
      | executable e =>
        exact Executable.IsUnbroken.newline_not_mem_of_mem_lines hinner hm' hname hunit
      | type header identities members =>
        have hlines := ih ⟨header, identities, members⟩ hm (ht.nested hm) hinner
        show ∀ line ∈ lines style _ ⟨header, identities, members⟩ ++ [""], _
        rw [List.forall_mem_append]
        exact ⟨hlines, by simp⟩
    have hblocks : ∀ b ∈ Block.inOrder (Member.blocks style (indent ++ style.indentUnit) t.members),
        '\n' ∉ b.category.title.toList ∧ ∀ line ∈ b.lines, '\n' ∉ line.toList := by
      intro b hb
      obtain ⟨m, hm, rfl⟩ := Member.mem_inOrder_blocks_iff.mp hb
      rw [Member.block_category]
      exact ⟨Category.newline_not_mem_title (hcategories m hm), hmembers m hm⟩
    have hline (s : String) (hs : '\n' ∉ s.toList) :
        '\n' ∉ (indent ++ t.header.declaration ++ s).toList := by
      simp only [newline_not_mem_append]
      exact ⟨⟨hindent, hdeclaration⟩, hs⟩
    unfold lines Block.typeLines
    rw [List.forall_mem_append]
    refine ⟨hhead, ?_⟩
    split
    · simpa using hline " \x7b\x7d" (by decide)
    · simp only [List.cons_append, List.forall_mem_cons, List.forall_mem_append]
      refine ⟨hline _ (by decide), by simp,
        Block.newline_not_mem_of_mem_sectionLines hinner hblocks "" true, ?_, by simp⟩
      rw [newline_not_mem_append]
      exact ⟨hindent, by decide⟩

/-- Every type has at least one line. -/
theorem lines_ne_nil (style : Style) (indent : String) (t : TypeDecl) :
    t.lines style indent ≠ [] := by
  unfold lines Block.typeLines
  split <;> simp

/-- The lines of a type are the lines of its text. -/
theorem lines_unlines_lines (hunit : '\n' ∉ style.indentUnit.toList)
    (ht : t.Everywhere fun u => u.IsNamed ∧ u.KeepsCategories ∧ u.IsUnbroken) {indent : String}
    (hindent : '\n' ∉ indent.toList) :
    Text.lines (unlines (t.lines style indent)) = t.lines style indent :=
  Text.lines_unlines (newline_not_mem_of_mem_lines hunit ht hindent) (lines_ne_nil style indent t)

end TypeDecl

end JavaScribe
