import JavaScribe.Session.Edit
import JavaScribe.Proofs.Outcomes
import JavaScribe.Proofs.TagGrammar
import JavaScribe.Proofs.TypeTree

/-!
# Accepted edits

An edit is accepted if all its checks succeed, and then its effect is fixed.  For every kind of edit
that can be refused there is one statement here that says exactly this; whatever else is shown of
accepted edits follows from these and does not look into the checks again.

The edits that declare a member have one form.  They are accepted on the strength of the header of
the type, of what is said of the member, and of its identity being new; what they add does not
depend on the members that are there already (`edit_eq_ok_iff_of_declaresMember`).
-/

set_option autoImplicit false

namespace JavaScribe

namespace TypeDecl

/-- A type is told by the member that it is. -/
theorem toMember_inj {t u : TypeDecl} : t.toMember = u.toMember ↔ t = u := by
  cases t
  cases u
  simp [toMember]

/-- An identity may be given to a member just if no other member has it. -/
theorem requireNew_eq_ok_iff {t : TypeDecl} {p : Place} {i : Identity} {name : String}
    {r : Unit} : t.requireNew p i name = .ok r ↔ i ∉ t.identities := by
  unfold requireNew
  split <;> simp_all

/-- When a field is accepted, and what its declaration does. -/
theorem declareField_eq_ok_iff {t : TypeDecl} {p : Place} {s : FieldSpec} {e : Effect} :
    t.declareField p s = .ok e ↔
      requireIdentifier "field name" s.name = .ok () ∧ ∃ category accepted,
        Category.parse s.options.category = .ok category ∧
        (t.subject .field s.name false).judge s.options.modifiers = .ok accepted ∧
        .field s.name ∉ t.identities ∧
        e = t.declare (.field ⟨s.type, s.name, s.documentation, accepted.emitted, s.value,
          category, s.options⟩) (t.subject .field s.name false) accepted := by
  simp only [declareField, except_bind_eq_ok_iff, except_mapError_eq_ok_iff,
    requireNew_eq_ok_iff, pure, Except.pure, Except.ok.injEq]
  constructor
  · rintro ⟨⟨⟩, hname, category, hcategory, ⟨⟩, hnew, accepted, haccepted, rfl⟩
    exact ⟨hname, category, accepted, hcategory, haccepted, hnew, rfl⟩
  · rintro ⟨hname, category, accepted, hcategory, haccepted, hnew, rfl⟩
    exact ⟨(), hname, category, hcategory, (), hnew, accepted, haccepted, rfl⟩

/-- When a method is accepted, and what its declaration does. -/
theorem declareMethod_eq_ok_iff {t : TypeDecl} {p : Place} {s : MethodSpec} {e : Effect} :
    t.declareMethod p s = .ok e ↔
      requireIdentifier "method name" s.name = .ok () ∧ ∃ category accepted,
        Category.parse s.options.category = .ok category ∧
        (t.subject .method s.name s.body.isSome).judge s.options.modifiers = .ok accepted ∧
        .method s.name (signature s.parameters) ∉ t.identities ∧
        e = t.declare (.executable ⟨.method s.returnType s.returnDoc, s.name, s.documentation,
          s.parameters, accepted.emitted, s.body, category, s.options⟩)
          (t.subject .method s.name s.body.isSome) accepted := by
  simp only [declareMethod, except_bind_eq_ok_iff, except_mapError_eq_ok_iff,
    requireNew_eq_ok_iff, pure, Except.pure, Except.ok.injEq]
  constructor
  · rintro ⟨⟨⟩, hname, category, hcategory, ⟨⟩, hnew, accepted, haccepted, rfl⟩
    exact ⟨hname, category, accepted, hcategory, haccepted, hnew, rfl⟩
  · rintro ⟨hname, category, accepted, hcategory, haccepted, hnew, rfl⟩
    exact ⟨(), hname, category, hcategory, (), hnew, accepted, haccepted, rfl⟩

/-- When a constructor is accepted, and what its declaration does. -/
theorem declareConstructor_eq_ok_iff {t : TypeDecl} {p : Place} {s : ConstructorSpec}
    {e : Effect} :
    t.declareConstructor p s = .ok e ↔ ∃ category accepted,
        Category.parse s.options.category = .ok category ∧
        (t.subject .constructor t.header.name false).judge s.options.modifiers = .ok accepted ∧
        .constructor (signature s.parameters) ∉ t.identities ∧
        e = t.declare (.executable ⟨.constructor, t.header.name, s.documentation, s.parameters,
          accepted.emitted, s.body, category, s.options⟩)
          (t.subject .constructor t.header.name false) accepted := by
  simp only [declareConstructor, except_bind_eq_ok_iff, except_mapError_eq_ok_iff,
    requireNew_eq_ok_iff, pure, Except.pure, Except.ok.injEq]
  constructor
  · rintro ⟨category, hcategory, ⟨⟩, hnew, accepted, haccepted, rfl⟩
    exact ⟨category, accepted, hcategory, haccepted, hnew, rfl⟩
  · rintro ⟨category, accepted, hcategory, haccepted, hnew, rfl⟩
    exact ⟨category, hcategory, (), hnew, accepted, haccepted, rfl⟩

end TypeDecl

/-- When the declaration of a type is accepted, and what it does. -/
theorem TypeSpec.declare_eq_ok_iff {s : TypeSpec} {site : Site} {p : Place} {e : Effect} :
    s.declare site p = .ok e ↔
      ¬(s.kind = .interfaceType ∧ s.superclass.isSome = true) ∧
      requireIdentifier (s.kind.word ++ " name") s.name = .ok () ∧
      requirePackageName p.package = .ok () ∧ ∃ category accepted,
        Category.parse s.category = .ok category ∧
        (s.subject site).judge s.modifiers = .ok accepted ∧
        e = { type := ⟨s.header category accepted.emitted, [], []⟩, imports := importsOf s.mentions
              warnings := (s.subject site).warnings accepted
              log := Log.ofWarnings ((s.subject site).warnings accepted) ++
                [s.declaredRecord p] } := by
  unfold declare
  split
  · next h => simp [h, throw, throwThe, MonadExceptOf.throw, bind, Except.bind]
  · next h =>
    simp only [except_bind_eq_ok_iff, except_mapError_eq_ok_iff, pure, Except.pure,
      Except.ok.injEq]
    constructor
    · rintro ⟨⟨⟩, hname, ⟨⟩, hpackage, category, hcategory, accepted, haccepted, rfl⟩
      exact ⟨h, hname, hpackage, category, accepted, hcategory, haccepted, rfl⟩
    · rintro ⟨-, hname, hpackage, category, accepted, hcategory, haccepted, rfl⟩
      exact ⟨(), hname, (), hpackage, category, hcategory, accepted, haccepted, rfl⟩

namespace TypeDecl

/-- When a nested type is accepted, and what its declaration does. -/
theorem declareNested_eq_ok_iff {t : TypeDecl} {p : Place} {s : TypeSpec} {e : Effect} :
    t.declareNested p s = .ok e ↔ ∃ nested,
        s.declare t.header.kind.site (p.inner s.name) = .ok nested ∧
        .type s.name ∉ t.identities ∧
        e = { nested with type := t.withMember nested.type.toMember } := by
  simp only [declareNested, except_bind_eq_ok_iff, requireNew_eq_ok_iff, pure, Except.pure,
    Except.ok.injEq]
  constructor
  · rintro ⟨⟨⟩, hnew, nested, hnested, rfl⟩
    exact ⟨nested, hnested, hnew, rfl⟩
  · rintro ⟨nested, hnested, hnew, rfl⟩
    exact ⟨(), hnew, nested, hnested, rfl⟩

end TypeDecl

/-- What is known of a member that was just declared: its category is the one that its tag is read
as, and if it is a type, it is as its own declaration left it. -/
structure Member.JustDeclared (m : Member) : Prop where
  category : Category.parse m.category.tag = .ok m.category
  nested : ∀ v : TypeDecl, m = v.toMember →
    ∃ (s : TypeSpec) (site : Site) (p : Place) (e : Effect), s.declare site p = .ok e ∧ v = e.type

/-- Whether an edit declares a member. -/
def Edit.declaresMember : Edit → Bool
  | .field _ | .method _ | .constructor _ | .nestedType _ => true
  | _ => false

namespace TypeDecl

/-- The type as it was before any member was declared in it. -/
def bare (t : TypeDecl) : TypeDecl := ⟨t.header, [], []⟩

/-- A type with one more member tells which member was added. -/
theorem withMember_inj {t : TypeDecl} {m m' : Member} :
    t.withMember m = t.withMember m' ↔ m = m' := by
  constructor
  · intro h
    have hmembers := congrArg TypeDecl.members h
    simpa [withMember] using hmembers
  · rintro rfl
    rfl

/-- What the declaration of a member comes to is told by the header of the type; of the members that
are there already it only matters whether one of them has the same identity. -/
theorem edit_eq_ok_iff_of_declaresMember {t : TypeDecl} {p : Place} {ed : Edit} {e : Effect}
    (h : ed.declaresMember = true) :
    t.edit p ed = .ok e ↔ ∃ e₀ m, t.bare.edit p ed = .ok e₀ ∧ e₀.type = t.bare.withMember m ∧
      m.identity ∉ t.identities ∧ e = { e₀ with type := t.withMember m } := by
  -- without members every identity is new, so for the bare type only the other checks are left
  have hbare : ∀ i, i ∉ t.bare.identities := fun i => List.not_mem_nil
  cases ed with
  | field spec =>
    simp only [edit, declareField_eq_ok_iff]
    constructor
    · rintro ⟨hname, category, accepted, hcategory, haccepted, hnew, rfl⟩
      exact ⟨_, _, ⟨hname, category, accepted, hcategory, haccepted, hbare _, rfl⟩, rfl, hnew, rfl⟩
    · rintro ⟨_, m, ⟨hname, category, accepted, hcategory, haccepted, -, rfl⟩, hm, hnew, rfl⟩
      obtain rfl := withMember_inj.mp hm
      exact ⟨hname, category, accepted, hcategory, haccepted, hnew, rfl⟩
  | method spec =>
    simp only [edit, declareMethod_eq_ok_iff]
    constructor
    · rintro ⟨hname, category, accepted, hcategory, haccepted, hnew, rfl⟩
      exact ⟨_, _, ⟨hname, category, accepted, hcategory, haccepted, hbare _, rfl⟩, rfl, hnew, rfl⟩
    · rintro ⟨_, m, ⟨hname, category, accepted, hcategory, haccepted, -, rfl⟩, hm, hnew, rfl⟩
      obtain rfl := withMember_inj.mp hm
      exact ⟨hname, category, accepted, hcategory, haccepted, hnew, rfl⟩
  | constructor spec =>
    simp only [edit, declareConstructor_eq_ok_iff]
    constructor
    · rintro ⟨category, accepted, hcategory, haccepted, hnew, rfl⟩
      exact ⟨_, _, ⟨category, accepted, hcategory, haccepted, hbare _, rfl⟩, rfl, hnew, rfl⟩
    · rintro ⟨_, m, ⟨category, accepted, hcategory, haccepted, -, rfl⟩, hm, hnew, rfl⟩
      obtain rfl := withMember_inj.mp hm
      exact ⟨category, accepted, hcategory, haccepted, hnew, rfl⟩
  | nestedType spec =>
    simp only [edit, declareNested_eq_ok_iff]
    -- here the identity is checked by the name that was given, and recorded by the name of the type
    have hname : ∀ {nested : Effect},
        spec.declare t.header.kind.site (p.inner spec.name) = .ok nested →
        nested.type.toMember.identity = .type spec.name := by
      intro nested hnested
      obtain ⟨-, -, -, category, accepted, -, -, rfl⟩ := TypeSpec.declare_eq_ok_iff.mp hnested
      rfl
    constructor
    · rintro ⟨nested, hnested, hnew, rfl⟩
      exact ⟨_, _, ⟨nested, hnested, hbare _, rfl⟩, rfl, hname hnested ▸ hnew, rfl⟩
    · rintro ⟨_, m, ⟨nested, hnested, -, rfl⟩, hm, hnew, rfl⟩
      obtain rfl := withMember_inj.mp hm
      exact ⟨nested, hnested, hname hnested ▸ hnew, rfl⟩
  | _ => simp [Edit.declaresMember] at h

/-- Any other edit changes no more of the type than what edits may change of a declaration. -/
theorem edit_type_of_not_declaresMember {t : TypeDecl} {p : Place} {ed : Edit} {e : Effect}
    (h : ed.declaresMember = false) (he : t.edit p ed = .ok e) :
    ∃ header, e.type = { t with header } ∧ header.declared = t.header.declared := by
  cases ed with
  | addInterfaces | addAnnotations | importEntry | importType | importMember =>
    simp only [edit, Except.ok.injEq] at he
    subst he
    exact ⟨_, rfl, rfl⟩
  | typeParameter name documentation bounds =>
    simp only [edit, declareTypeParameter, except_bind_eq_ok_iff, pure, Except.pure,
      Except.ok.injEq] at he
    obtain ⟨parameter, -, rfl⟩ := he
    exact ⟨_, rfl, rfl⟩
  | importPackage package =>
    simp only [edit, except_bind_eq_ok_iff, pure, Except.pure, Except.ok.injEq] at he
    obtain ⟨-, -, rfl⟩ := he
    exact ⟨_, rfl, rfl⟩
  | _ => simp [Edit.declaresMember] at h

/-- No edit changes what a declaration says of a type once and for all. -/
theorem edit_declared_eq {t : TypeDecl} {p : Place} {ed : Edit} {e : Effect}
    (he : t.edit p ed = .ok e) : e.type.header.declared = t.header.declared := by
  cases h : ed.declaresMember with
  | true =>
    obtain ⟨e₀, m, -, -, -, rfl⟩ := (edit_eq_ok_iff_of_declaresMember h).mp he
    rfl
  | false =>
    obtain ⟨header, htype, hdeclared⟩ := edit_type_of_not_declaresMember h he
    rw [htype, hdeclared]

/-- The members after an accepted edit are those before it, and perhaps one that was just
declared. -/
theorem mem_members_of_edit {t : TypeDecl} {p : Place} {ed : Edit} {e : Effect} {m : Member}
    (he : t.edit p ed = .ok e) (hm : m ∈ e.type.members) : m ∈ t.members ∨ m.JustDeclared := by
  cases h : ed.declaresMember with
  | false =>
    obtain ⟨header, htype, -⟩ := edit_type_of_not_declaresMember h he
    rw [htype] at hm
    exact .inl hm
  | true =>
    cases ed with
    | field spec =>
      obtain ⟨-, category, accepted, hcategory, -, -, rfl⟩ := declareField_eq_ok_iff.mp he
      rcases List.mem_append.mp hm with hm | hm
      · exact .inl hm
      · rw [List.mem_singleton.mp hm]
        exact .inr ⟨Category.parse_tag_of_parse hcategory, fun _ hv => by cases hv⟩
    | method spec =>
      obtain ⟨-, category, accepted, hcategory, -, -, rfl⟩ := declareMethod_eq_ok_iff.mp he
      rcases List.mem_append.mp hm with hm | hm
      · exact .inl hm
      · rw [List.mem_singleton.mp hm]
        exact .inr ⟨Category.parse_tag_of_parse hcategory, fun _ hv => by cases hv⟩
    | constructor spec =>
      obtain ⟨category, accepted, hcategory, -, -, rfl⟩ := declareConstructor_eq_ok_iff.mp he
      rcases List.mem_append.mp hm with hm | hm
      · exact .inl hm
      · rw [List.mem_singleton.mp hm]
        exact .inr ⟨Category.parse_tag_of_parse hcategory, fun _ hv => by cases hv⟩
    | nestedType spec =>
      obtain ⟨nested, hnested, -, rfl⟩ := declareNested_eq_ok_iff.mp he
      rcases List.mem_append.mp hm with hm | hm
      · exact .inl hm
      · rw [List.mem_singleton.mp hm]
        refine .inr ⟨?_, fun v hv => ?_⟩
        · obtain ⟨-, -, -, category, accepted, hcategory, -, rfl⟩ :=
            TypeSpec.declare_eq_ok_iff.mp hnested
          exact Category.parse_tag_of_parse hcategory
        · obtain rfl := toMember_inj.mp hv
          exact ⟨spec, _, _, nested, hnested, rfl⟩
    | _ => simp [Edit.declaresMember] at h

/-- What a property of types has to satisfy to hold of every type of every tree that is built. -/
structure Invariant (P : TypeDecl → Prop) : Prop where
  /-- It holds of a type that was just declared. -/
  declare : ∀ {s : TypeSpec} {site : Site} {p : Place} {e : Effect},
    s.declare site p = .ok e → P e.type
  /-- Edits of the type itself keep it. -/
  edit : ∀ {t : TypeDecl} {p : Place} {ed : Edit} {e : Effect},
    t.edit p ed = .ok e → P t → P e.type
  /-- It looks at nested types no further than how they are declared. -/
  nested : ∀ {header : TypeHeader} {identities : List Identity} {before after : List Member}
    {v v' : TypeDecl}, v'.header.declared = v.header.declared →
    P ⟨header, identities, before ++ v.toMember :: after⟩ →
    P ⟨header, identities, before ++ v'.toMember :: after⟩

/-- An invariant holds everywhere in a type that was just declared. -/
theorem Invariant.everywhere_declare {P : TypeDecl → Prop} (hP : Invariant P) {s : TypeSpec}
    {site : Site} {p : Place} {e : Effect} (h : s.declare site p = .ok e) :
    e.type.Everywhere P := by
  refine ⟨hP.declare h, ?_⟩
  obtain ⟨-, -, -, category, accepted, -, -, rfl⟩ := TypeSpec.declare_eq_ok_iff.mp h
  intro m hm
  exact absurd hm List.not_mem_nil

/-- An invariant holds everywhere in an edited type if it did before. -/
theorem Invariant.everywhere_edit {P : TypeDecl → Prop} (hP : Invariant P) {t : TypeDecl}
    {p : Place} {ed : Edit} {e : Effect} (he : t.edit p ed = .ok e) (ht : t.Everywhere P) :
    e.type.Everywhere P := by
  refine ⟨hP.edit he ht.1, ?_⟩
  intro m hm
  rcases mem_members_of_edit he hm with hm | hm
  · exact ht.2 m hm
  · cases m with
    | field | executable => exact trivial
    | type header identities members =>
      obtain ⟨s, site, q, nested, hs, hv⟩ := hm.nested ⟨header, identities, members⟩ rfl
      exact everywhere_toMember.mpr (hv ▸ hP.everywhere_declare hs)

/-- That identities are kept is an invariant. -/
theorem invariant_keepsIdentities : Invariant KeepsIdentities where
  declare {s site p e} h := by
    obtain ⟨-, -, -, category, accepted, -, -, rfl⟩ := TypeSpec.declare_eq_ok_iff.mp h
    exact ⟨rfl, List.nodup_nil⟩
  edit {t p ed e} he ht := by
    cases h : ed.declaresMember with
    | true =>
      obtain ⟨e₀, m, -, -, hnew, rfl⟩ := (edit_eq_ok_iff_of_declaresMember h).mp he
      refine ⟨?_, ?_⟩
      · simp only [withMember, ht.1, List.map_append, List.map_cons, List.map_nil]
      · refine List.nodup_append.mpr ⟨ht.2, by simp, ?_⟩
        intro i hi j hj hij
        rw [List.mem_singleton] at hj
        exact hnew (hj ▸ hij ▸ hi)
    | false =>
      obtain ⟨header, htype, -⟩ := edit_type_of_not_declaresMember h he
      rw [htype]
      exact ht
  nested h ht := ht.of_nested_declared_eq h

end TypeDecl

end JavaScribe
