import JavaScribe.Proofs.AcceptedEdit
import JavaScribe.Proofs.DottedNames

/-!
# Declared members

`Edit.Declares` says which member an edit declares if its name, its category and its modifiers pass
their checks.  What then remains is whether the identity is new: if it is, the type has this member
more (`TypeDecl.edit_of_declares_of_new`), and if it is not, the edit is refused as a duplicate
(`TypeDecl.edit_of_declares_of_taken`).  The identity is known from the edit alone, and an accepted
edit records just this one (`TypeDecl.exists_added_of_edit`).
-/

set_option autoImplicit false

namespace JavaScribe

/-- By what the member that an edit declares is recognised, if it declares one. -/
def Edit.identity? : Edit → Option Identity
  | .field s => some (.field s.name)
  | .method s => some (.method s.name (signature s.parameters))
  | .constructor s => some (.constructor (signature s.parameters))
  | .nestedType s => some (.type s.name)
  | _ => none

/-- What an edit declares in a type at a place, if name, category and modifiers pass their checks
there.  Nothing is asked of the members that the type has already. -/
inductive Edit.Declares (owner : TypeHeader) (p : Place) : Edit → Member → Prop where
  | field {s : FieldSpec} {category : Category} {accepted : AcceptedModifiers} :
    isIdentifier s.name = true → Category.parse s.options.category = .ok category →
    Subject.judge ⟨.field, owner.kind.site, s.name, false, owner.isAbstract⟩ s.options.modifiers =
      .ok accepted →
    Declares owner p (.field s) (.field ⟨s.type, s.name, s.documentation, accepted.emitted,
      s.value, category, s.options⟩)
  | method {s : MethodSpec} {category : Category} {accepted : AcceptedModifiers} :
    isIdentifier s.name = true → Category.parse s.options.category = .ok category →
    Subject.judge ⟨.method, owner.kind.site, s.name, s.body.isSome, owner.isAbstract⟩
      s.options.modifiers = .ok accepted →
    Declares owner p (.method s) (.executable ⟨.method s.returnType s.returnDoc, s.name,
      s.documentation, s.parameters, accepted.emitted, s.body, category, s.options⟩)
  | constructor {s : ConstructorSpec} {category : Category} {accepted : AcceptedModifiers} :
    Category.parse s.options.category = .ok category →
    Subject.judge ⟨.constructor, owner.kind.site, owner.name, false, owner.isAbstract⟩
      s.options.modifiers = .ok accepted →
    Declares owner p (.constructor s) (.executable ⟨.constructor, owner.name, s.documentation,
      s.parameters, accepted.emitted, s.body, category, s.options⟩)
  | nestedType {s : TypeSpec} {category : Category} {accepted : AcceptedModifiers} :
    ¬(s.kind = .interfaceType ∧ s.superclass.isSome = true) →
    isIdentifier s.name = true → isPackageName p.package = true →
    Category.parse s.category = .ok category →
    Subject.judge ⟨s.kind.declarationKind, owner.kind.site, s.name, false, false⟩ s.modifiers =
      .ok accepted →
    Declares owner p (.nestedType s) (.type (s.header category accepted.emitted) [] [])

namespace TypeDecl

/-- A member that an accepted edit declares has passed the checks of its declaration. -/
theorem declares_of_edit {t : TypeDecl} {p : Place} {ed : Edit} {e : Effect}
    (h : ed.declaresMember = true) (he : t.edit p ed = .ok e) :
    ∃ m, ed.Declares t.header p m ∧ e.type = t.withMember m := by
  cases ed with
  | field spec =>
    obtain ⟨hname, category, accepted, hcategory, haccepted, -, rfl⟩ :=
      declareField_eq_ok_iff.mp he
    have hlegal := requireIdentifier_eq_ok_iff.mp hname
    exact ⟨_, .field hlegal hcategory haccepted, rfl⟩
  | method spec =>
    obtain ⟨hname, category, accepted, hcategory, haccepted, -, rfl⟩ :=
      declareMethod_eq_ok_iff.mp he
    have hlegal := requireIdentifier_eq_ok_iff.mp hname
    exact ⟨_, .method hlegal hcategory haccepted, rfl⟩
  | constructor spec =>
    obtain ⟨category, accepted, hcategory, haccepted, -, rfl⟩ :=
      declareConstructor_eq_ok_iff.mp he
    exact ⟨_, .constructor hcategory haccepted, rfl⟩
  | nestedType spec =>
    obtain ⟨nested, hnested, -, rfl⟩ := declareNested_eq_ok_iff.mp he
    obtain ⟨hsuperclass, hname, hpackage, category, accepted, hcategory, haccepted, rfl⟩ :=
      TypeSpec.declare_eq_ok_iff.mp hnested
    have hlegal := requireIdentifier_eq_ok_iff.mp hname
    have hpackage : isPackageName p.package = true := requirePackageName_eq_ok_iff.mp hpackage
    exact ⟨_, .nestedType hsuperclass hlegal hpackage hcategory haccepted, rfl⟩
  | _ => simp [Edit.declaresMember] at h

/-- A declaration that passes its checks is accepted if its identity is new. -/
theorem edit_of_declares_of_new {t : TypeDecl} {p : Place} {ed : Edit} {m : Member}
    (h : ed.Declares t.header p m) (hnew : m.identity ∉ t.identities) :
    ∃ e, t.edit p ed = .ok e ∧ e.type = t.withMember m := by
  cases h with
  | @field s _ _ hname hcategory haccepted =>
    have hname : requireIdentifier "field name" s.name = .ok () :=
      requireIdentifier_eq_ok_iff.mpr hname
    exact ⟨_, declareField_eq_ok_iff.mpr ⟨hname, _, _, hcategory, haccepted, hnew, rfl⟩, rfl⟩
  | @method s _ _ hname hcategory haccepted =>
    have hname : requireIdentifier "method name" s.name = .ok () :=
      requireIdentifier_eq_ok_iff.mpr hname
    exact ⟨_, declareMethod_eq_ok_iff.mpr ⟨hname, _, _, hcategory, haccepted, hnew, rfl⟩, rfl⟩
  | constructor hcategory haccepted =>
    exact ⟨_, declareConstructor_eq_ok_iff.mpr ⟨_, _, hcategory, haccepted, hnew, rfl⟩, rfl⟩
  | @nestedType s category accepted hkind hname hpackage hcategory haccepted =>
    have hname : requireIdentifier (s.kind.word ++ " name") s.name = .ok () :=
      requireIdentifier_eq_ok_iff.mpr hname
    have hpackage := requirePackageName_eq_ok_iff.mpr hpackage
    have hdeclare := (TypeSpec.declare_eq_ok_iff (p := p.inner s.name)).mpr
      ⟨hkind, hname, hpackage, category, accepted, hcategory, haccepted, rfl⟩
    exact ⟨_, declareNested_eq_ok_iff.mpr ⟨_, hdeclare, hnew, rfl⟩, rfl⟩

/-- A declaration that passes its checks is refused as a duplicate if its identity is taken. -/
theorem edit_of_declares_of_taken {t : TypeDecl} {p : Place} {ed : Edit} {m : Member}
    (h : ed.Declares t.header p m) (htaken : m.identity ∈ t.identities) :
    t.edit p ed = .error (.duplicate m.identity m.name p.qualifiedName) := by
  have hcontains : t.identities.contains m.identity = true := by simpa using htaken
  cases h with
  | @field s _ _ hname hcategory =>
    have hname : requireIdentifier "field name" s.name = .ok () :=
      requireIdentifier_eq_ok_iff.mpr hname
    have htaken : t.identities.contains (.field s.name) = true := hcontains
    simp only [edit, declareField, hname, hcategory, requireNew, htaken, if_true]
    rfl
  | @method s _ _ hname hcategory =>
    have hname : requireIdentifier "method name" s.name = .ok () :=
      requireIdentifier_eq_ok_iff.mpr hname
    have htaken : t.identities.contains (.method s.name (signature s.parameters)) = true :=
      hcontains
    simp only [edit, declareMethod, hname, hcategory, requireNew, htaken, if_true]
    rfl
  | @constructor s _ _ hcategory =>
    have htaken : t.identities.contains (.constructor (signature s.parameters)) = true :=
      hcontains
    simp only [edit, declareConstructor, hcategory, requireNew, htaken, if_true]
    rfl
  | @nestedType s =>
    have htaken : t.identities.contains (.type s.name) = true := hcontains
    simp only [edit, declareNested, requireNew, htaken, if_true]
    rfl

/-- What an accepted edit adds to the members of a type is just declared, and has the identity of
the edit. -/
theorem exists_added_of_edit {t : TypeDecl} {p : Place} {ed : Edit} {e : Effect}
    (he : t.edit p ed = .ok e) :
    ∃ added, e.type.members = t.members ++ added ∧ (∀ m ∈ added, m.JustDeclared) ∧
      e.type.identities = t.identities ++ ed.identity?.toList := by
  cases h : ed.declaresMember with
  | false =>
    obtain ⟨header, htype, -⟩ := edit_type_of_not_declaresMember h he
    have hidentity : ed.identity? = none := by
      cases ed <;> first | rfl | simp [Edit.declaresMember] at h
    refine ⟨[], ?_, fun m hm => absurd hm List.not_mem_nil, ?_⟩
    · rw [htype, List.append_nil]
    · rw [htype, hidentity, Option.toList_none, List.append_nil]
  | true =>
    -- but for being new, what is declared does not depend on members: a bare type tells it
    obtain ⟨e₀, m, hbare, htype, -, rfl⟩ := (edit_eq_ok_iff_of_declaresMember h).mp he
    have hjust : m.JustDeclared := by
      have hm : m ∈ e₀.type.members := htype ▸ List.mem_singleton_self m
      exact (mem_members_of_edit hbare hm).resolve_left List.not_mem_nil
    refine ⟨[m], rfl, fun m' hm' => List.mem_singleton.mp hm' ▸ hjust, ?_⟩
    have hidentity : ed.identity? = some m.identity := by
      cases ed with
      | field spec =>
        obtain ⟨-, category, accepted, -, -, -, he⟩ := declareField_eq_ok_iff.mp hbare
        rw [withMember_inj.mp (htype.symm.trans (congrArg Effect.type he))]
        rfl
      | method spec =>
        obtain ⟨-, category, accepted, -, -, -, he⟩ := declareMethod_eq_ok_iff.mp hbare
        rw [withMember_inj.mp (htype.symm.trans (congrArg Effect.type he))]
        rfl
      | constructor spec =>
        obtain ⟨category, accepted, -, -, -, he⟩ := declareConstructor_eq_ok_iff.mp hbare
        rw [withMember_inj.mp (htype.symm.trans (congrArg Effect.type he))]
        rfl
      | nestedType spec =>
        obtain ⟨nested, hnested, -, he⟩ := declareNested_eq_ok_iff.mp hbare
        obtain ⟨-, -, -, category, accepted, -, -, rfl⟩ := TypeSpec.declare_eq_ok_iff.mp hnested
        rw [withMember_inj.mp (htype.symm.trans (congrArg Effect.type he))]
        rfl
      | _ => simp [Edit.declaresMember] at h
    rw [hidentity]
    rfl

end TypeDecl

end JavaScribe
