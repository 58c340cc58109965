import JavaScribe.Proofs.TypeTree
import JavaScribe.Proofs.AcceptedEdit
import JavaScribe.Proofs.StepwiseBuilding

/-!
# The types that are written

Every declaration writes types: a type its superclass, interfaces, annotations and bounds, a member
the types of its parts.  A written type may have others inside it, as type arguments, bounds or
components, and all of them that have a package have to be imported.  `TypeExpr.Occurs` says what
occurs in a type, and `TypeDecl.written` which types are written anywhere in a tree.

An accepted edit adds to what is written, and what it adds is what its imports are for
(`TypeDecl.exists_adds_of_edit`).  The kinds of declarations are told apart there and nowhere else.
-/

set_option autoImplicit false

namespace JavaScribe

namespace TypeExpr

/-- Whether a named type with a package occurs in a type: it is the type itself, or it occurs in a
type argument, in a bound or in the component of an array. -/
inductive Occurs (n : TypeName) : TypeExpr → Prop where
  | named {arguments : List TypeExpr} : n.package ≠ "" →
      Occurs n (.named n.name n.package arguments false)
  | argument {name package : String} {arguments : List TypeExpr} {primitive : Bool}
      {t : TypeExpr} : t ∈ arguments → Occurs n t →
      Occurs n (.named name package arguments primitive)
  | bound {upper : Bool} {t : TypeExpr} : Occurs n t → Occurs n (.bounded upper t)
  | component {t : TypeExpr} {dimensions : Nat} : Occurs n t → Occurs n (.array t dimensions)

mutual
/-- A type mentions what occurs in it. -/
theorem mem_mentions_iff (n : TypeName) : ∀ t : TypeExpr, n ∈ t.mentions ↔ Occurs n t
  | .named name package arguments primitive => by
    -- a primitive type and one without a package mention their arguments only
    have harguments := mem_mentionsAll_iff n arguments
    have hinner : n ∈ mentionsAll arguments →
        Occurs n (.named name package arguments primitive) := by
      intro h
      obtain ⟨t, ht, hn⟩ := harguments.mp h
      exact .argument ht hn
    rw [mentions]
    constructor
    · intro h
      split at h
      · exact hinner h
      · next hnamed =>
        rcases List.mem_cons.mp h with rfl | h
        · simp only [Bool.or_eq_true, String.isEmpty_iff, not_or, Bool.not_eq_true] at hnamed
          obtain ⟨rfl, hpackage⟩ := hnamed
          exact .named hpackage
        · exact hinner h
    · intro h
      cases h with
      | named hpackage =>
        rw [if_neg (by simpa using hpackage)]
        exact List.mem_cons_self
      | argument ht hn =>
        have h := harguments.mpr ⟨_, ht, hn⟩
        split
        · exact h
        · exact List.mem_cons_of_mem _ h
  | .var _ => by
    constructor
    · intro h
      cases h
    · intro h
      cases h
  | .wildcard _ => by
    constructor
    · intro h
      cases h
    · intro h
      cases h
  | .bounded _ t => by
    rw [mentions, mem_mentions_iff n t]
    constructor
    · exact .bound
    · intro h
      cases h with
      | bound h => exact h
  | .array t _ => by
    rw [mentions, mem_mentions_iff n t]
    constructor
    · exact .component
    · intro h
      cases h with
      | component h => exact h

/-- A list of types mentions what occurs in one of them. -/
theorem mem_mentionsAll_iff (n : TypeName) :
    ∀ ts : List TypeExpr, n ∈ mentionsAll ts ↔ ∃ t ∈ ts, Occurs n t
  | [] => by simp [mentionsAll]
  | t :: ts => by
    simp only [mentionsAll, List.mem_append, mem_mentions_iff n t, mem_mentionsAll_iff n ts,
      List.mem_cons, exists_eq_or_imp]
end

end TypeExpr

/-- The types that a field is declared with. -/
def Field.written (f : Field) : List TypeExpr := f.type :: f.options.annotations.map Annotation.type

/-- The types that a parameter is declared with. -/
def Parameter.written (p : Parameter) : List TypeExpr := p.type :: p.annotations.map Annotation.type

/-- The types that the form of a constructor or method is declared with. -/
def ExecutableForm.written : ExecutableForm → List TypeExpr
  | .constructor => []
  | .method returnType _ => [returnType]

/-- The types that a constructor or method is declared with. -/
def Executable.written (e : Executable) : List TypeExpr :=
  e.form.written ++ e.parameters.flatMap Parameter.written ++
    e.options.typeParameters.flatMap TypeParameter.bounds ++
    e.options.annotations.map Annotation.type

/-- The types that a type is declared with, apart from its members. -/
def TypeHeader.written (h : TypeHeader) : List TypeExpr :=
  h.superclass.toList ++ h.interfaces ++ h.annotations.map Annotation.type ++
    h.typeParameters.flatMap TypeParameter.bounds

mutual
/-- The types that a member is declared with, those of the members of a nested type included. -/
def Member.written : Member → List TypeExpr
  | .field f => f.written
  | .executable e => e.written
  | .type header _ members => header.written ++ Member.writtenIn members

/-- The types that the members of a list are declared with. -/
def Member.writtenIn : List Member → List TypeExpr
  | [] => []
  | m :: ms => m.written ++ Member.writtenIn ms
end

/-- The types that a type and everything in it are declared with. -/
def TypeDecl.written (t : TypeDecl) : List TypeExpr :=
  t.header.written ++ Member.writtenIn t.members

/-- The types in two lists of members are those in each list, in order. -/
theorem Member.writtenIn_append (ms ms' : List Member) :
    writtenIn (ms ++ ms') = writtenIn ms ++ writtenIn ms' := by
  induction ms with
  | nil => rfl
  | cons m ms ih => rw [List.cons_append, writtenIn, writtenIn, ih, List.append_assoc]

/-- A field mentions what occurs in the types that it is declared with. -/
theorem Field.mentions_eq (f : Field) : f.mentions = TypeExpr.mentionsAll f.written := by
  simp only [mentions, written, mentionsAll_eq_flatMap, List.flatMap_cons, List.flatMap_map]
  rfl

/-- A constructor or method mentions what occurs in the types that it is declared with. -/
theorem Executable.mentions_eq (e : Executable) :
    e.mentions = TypeExpr.mentionsAll e.written := by
  have hform : e.form.mentions = e.form.written.flatMap TypeExpr.mentions := by
    cases e.form with
    | constructor => rfl
    | method => simp [ExecutableForm.mentions, ExecutableForm.written]
  have hparameter : Parameter.mentions = fun p => p.written.flatMap TypeExpr.mentions := by
    funext p
    simp only [Parameter.mentions, Parameter.written, List.flatMap_cons, List.flatMap_map]
    rfl
  have hbounds : TypeParameter.mentions = fun p => p.bounds.flatMap TypeExpr.mentions :=
    funext fun p => mentionsAll_eq_flatMap p.bounds
  simp only [mentions, written, mentionsAll_eq_flatMap, List.flatMap_append, List.flatMap_map,
    List.flatMap_assoc, MemberOptions.mentions, hform, hparameter, hbounds, List.append_assoc]
  rfl

/-- The interfaces with further ones are those of both. -/
theorem TypeDecl.mem_joinInterfaces {present added : List TypeExpr} {x : TypeExpr} :
    x ∈ TypeDecl.joinInterfaces present added ↔ x ∈ present ∨ x ∈ added := by
  induction added generalizing present with
  | nil => simp [TypeDecl.joinInterfaces]
  | cons i is ih =>
    show x ∈ TypeDecl.joinInterfaces (if present.contains i then present else present ++ [i]) is ↔ _
    rw [ih, List.mem_cons]
    split
    · next h =>
      have hi : i ∈ present := by simpa using h
      constructor
      · rintro (hx | hx)
        · exact .inl hx
        · exact .inr (.inr hx)
      · rintro (hx | rfl | hx)
        · exact .inl hx
        · exact .inl hi
        · exact .inr hx
    · rw [List.mem_append, List.mem_singleton, or_assoc]

/-- What is said of a type mentions the types that its header is declared with. -/
theorem TypeSpec.mem_mentions_iff {s : TypeSpec} {category : Category}
    {modifiers : List Modifier} {n : TypeName} :
    n ∈ s.mentions ↔ n ∈ TypeExpr.mentionsAll (s.header category modifiers).written := by
  have hsuperclass : n ∈ (s.superclass.join.map TypeExpr.mentions).getD [] ↔
      ∃ x ∈ s.superclass.join.toList, n ∈ x.mentions := by
    cases s.superclass.join <;> simp
  have hannotations : n ∈ s.annotations.flatMap Annotation.mentions ↔
      ∃ x ∈ s.annotations.map Annotation.type, n ∈ x.mentions := by
    simp only [List.mem_flatMap, List.mem_map, exists_exists_and_eq_and]
    rfl
  simp only [mentions, List.mem_append, hsuperclass, hannotations, mentionsAll_eq_flatMap,
    List.mem_flatMap, header, TypeHeader.written, TypeDecl.mem_joinInterfaces, List.not_mem_nil,
    false_or, List.flatMap_nil, List.append_nil, or_and_right, exists_or]
  constructor
  · rintro ((h | h) | h)
    · exact .inr h
    · exact .inl (.inr h)
    · exact .inl (.inl h)
  · rintro ((h | h) | h)
    · exact .inr h
    · exact .inl (.inr h)
    · exact .inl (.inl h)

/-- Types that mention the same need the same imports. -/
theorem mem_importsOf_congr {ns ns' : List TypeName} (h : ∀ n, n ∈ ns ↔ n ∈ ns')
    (f : ImportEntry) : f ∈ importsOf ns ↔ f ∈ importsOf ns' := by
  simp only [importsOf, List.mem_map, h]

/-- The entries that an edit asks for by themselves, and not for a type that it declares something
with. -/
def Edit.explicitEntries : Edit → List ImportEntry
  | .importEntry entry => [entry]
  | .importType type => importsOf type.mentions
  | .importMember type member => [ImportEntry.ofMember type member]
  | .importPackage package => [ImportEntry.wholePackage package]
  | _ => []

/-- Whether an effect on a type adds types to what is written, and imports what occurs in them
and the explicit entries. -/
structure Effect.Adds (e : Effect) (t : TypeDecl) (added : List TypeExpr)
    (explicit : List ImportEntry) : Prop where
  written : ∀ x, x ∈ e.type.written ↔ x ∈ t.written ∨ x ∈ added
  imports : ∀ f, f ∈ e.imports ↔ f ∈ importsOf (TypeExpr.mentionsAll added) ∨ f ∈ explicit

namespace TypeDecl

/-- A member adds the types that it is declared with. -/
theorem adds_withMember (t : TypeDecl) (m : Member) {ns : List TypeName} {warnings : List String}
    {log : Log} (hm : ∀ n, n ∈ ns ↔ n ∈ TypeExpr.mentionsAll m.written) :
    Effect.Adds ⟨t.withMember m, importsOf ns, warnings, log⟩ t m.written [] where
  written x := by
    simp only [written, withMember, Member.writtenIn_append, Member.writtenIn, List.append_nil,
      List.mem_append, or_assoc]
  imports f := by
    simp only [List.not_mem_nil, or_false]
    exact mem_importsOf_congr hm f

/-- Another header adds the types that it is declared with beyond those before. -/
theorem adds_header (t : TypeDecl) {header : TypeHeader} {added : List TypeExpr}
    {ns : List TypeName} (hheader : ∀ x, x ∈ header.written ↔ x ∈ t.header.written ∨ x ∈ added)
    (hns : ∀ n, n ∈ ns ↔ n ∈ TypeExpr.mentionsAll added) :
    Effect.Adds { type := { t with header }, imports := importsOf ns } t added [] where
  written x := by
    simp only [written, List.mem_append, hheader]
    constructor
    · rintro ((hx | hx) | hx)
      · exact .inl (.inl hx)
      · exact .inr hx
      · exact .inl (.inr hx)
    · rintro ((hx | hx) | hx)
      · exact .inl (.inl hx)
      · exact .inr hx
      · exact .inl (.inr hx)
  imports f := by
    simp only [List.not_mem_nil, or_false]
    exact mem_importsOf_congr hns f

/-- Explicit entries are imported, and nothing is written for them. -/
theorem adds_explicit (t : TypeDecl) (es : List ImportEntry) :
    Effect.Adds { type := t, imports := es } t [] es where
  written x := by simp
  imports f := by simp [TypeExpr.mentionsAll, importsOf]

/-- An accepted edit adds to what is written, and it imports what occurs in what it adds and what
it asks for by itself. -/
theorem exists_adds_of_edit {t : TypeDecl} {p : Place} {ed : Edit} {e : Effect}
    (he : t.edit p ed = .ok e) : ∃ added, e.Adds t added ed.explicitEntries := by
  cases ed with
  | field spec =>
    obtain ⟨-, category, accepted, -, -, -, rfl⟩ := declareField_eq_ok_iff.mp he
    exact ⟨_, adds_withMember t _ fun n => by rw [Member.mentions, Field.mentions_eq]; rfl⟩
  | method spec =>
    obtain ⟨-, category, accepted, -, -, -, rfl⟩ := declareMethod_eq_ok_iff.mp he
    exact ⟨_, adds_withMember t _ fun n => by rw [Member.mentions, Executable.mentions_eq]; rfl⟩
  | constructor spec =>
    obtain ⟨category, accepted, -, -, -, rfl⟩ := declareConstructor_eq_ok_iff.mp he
    exact ⟨_, adds_withMember t _ fun n => by rw [Member.mentions, Executable.mentions_eq]; rfl⟩
  | nestedType spec =>
    obtain ⟨nested, hnested, -, rfl⟩ := declareNested_eq_ok_iff.mp he
    obtain ⟨-, -, -, category, accepted, -, -, rfl⟩ := TypeSpec.declare_eq_ok_iff.mp hnested
    refine ⟨_, adds_withMember t _ fun n => ?_⟩
    -- a type that was just declared has no members, so only its header is written
    rw [toMember, Member.written, Member.writtenIn, List.append_nil]
    exact TypeSpec.mem_mentions_iff
  | addInterfaces interfaces =>
    obtain rfl := Except.ok.inj he
    refine ⟨interfaces, adds_header t ?_ fun n => Iff.rfl⟩
    intro x
    simp only [TypeHeader.written, List.mem_append, mem_joinInterfaces]
    tauto
  | addAnnotations annotations =>
    obtain rfl := Except.ok.inj he
    refine ⟨annotations.map Annotation.type, adds_header t ?_ ?_⟩
    · intro x
      simp only [TypeHeader.written, List.mem_append, List.map_append]
      tauto
    · intro n
      rw [mentionsAll_eq_flatMap, List.flatMap_map]
      rfl
  | typeParameter name documentation bounds =>
    simp only [edit, declareTypeParameter, except_bind_eq_ok_iff, pure, Except.pure,
      Except.ok.injEq] at he
    obtain ⟨parameter, -, rfl⟩ := he
    refine ⟨parameter.bounds, adds_header t ?_ fun n => Iff.rfl⟩
    intro x
    simp only [TypeHeader.written, List.mem_append, List.flatMap_append, List.flatMap_singleton]
    tauto
  | importEntry entry =>
    obtain rfl := Except.ok.inj he
    exact ⟨[], adds_explicit t _⟩
  | importType type =>
    obtain rfl := Except.ok.inj he
    exact ⟨[], adds_explicit t _⟩
  | importMember type member =>
    obtain rfl := Except.ok.inj he
    exact ⟨[], adds_explicit t _⟩
  | importPackage package =>
    simp only [edit, except_bind_eq_ok_iff, pure, Except.pure, Except.ok.injEq] at he
    obtain ⟨-, -, rfl⟩ := he
    exact ⟨[], adds_explicit t _⟩

/-- What is added to a type of a tree is added to the tree. -/
theorem Replaced.mem_written {u u' t t' : TypeDecl} (h : Replaced u u' t t')
    {added : List TypeExpr} (hu : ∀ x, x ∈ u'.written ↔ x ∈ u.written ∨ x ∈ added)
    (x : TypeExpr) : x ∈ t'.written ↔ x ∈ t.written ∨ x ∈ added := by
  induction h with
  | here => exact hu x
  | @inside header identities before after v v' _ ih =>
    have hv : x ∈ v'.toMember.written ↔ x ∈ v.toMember.written ∨ x ∈ added := ih
    simp only [written, Member.writtenIn_append, Member.writtenIn, List.mem_append, hv]
    constructor
    · rintro (hx | hx | (hx | hx) | hx)
      · exact .inl (.inl hx)
      · exact .inl (.inr (.inl hx))
      · exact .inl (.inr (.inr (.inl hx)))
      · exact .inr hx
      · exact .inl (.inr (.inr (.inr hx)))
    · rintro ((hx | hx | hx | hx) | hx)
      · exact .inl hx
      · exact .inr (.inl hx)
      · exact .inr (.inr (.inl (.inl hx)))
      · exact .inr (.inr (.inr hx))
      · exact .inr (.inr (.inl (.inr hx)))

end TypeDecl

end JavaScribe
