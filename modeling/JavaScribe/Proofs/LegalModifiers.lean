import JavaScribe.Proofs.ModifierText
import JavaScribe.Proofs.ReachableSession

/-!
# Legal modifiers of all declarations

Whatever numbers are asked for as modifiers, in whatever order types and members are declared, the
modifiers that are written in the end are legal: those of each declaration in themselves
(`TypeHeader.HasLegalModifiers`), and those of a member also beside what it is and the type that it
is declared in (`Member.HasLegalModifiers`).  Each is judged once, when it is declared, and no later
edit changes what was judged, so this is an invariant (`TypeDecl.invariant_hasLegalModifiers`).

An abstract method is judged by what was asked of its class and not by what is written there.  That
the text of the class says the same is part of the invariant.
-/

set_option autoImplicit false

namespace JavaScribe

/-- Whether the modifiers that are written before a type are legal. -/
structure TypeHeader.HasLegalModifiers (h : TypeHeader) : Prop where
  text : IsModifierText (modifierText h.modifiers)
  notDefault : ¬Modifier.default.StandsIn (modifierText h.modifiers)
  abstract : h.kind = .classType → h.isAbstract = true →
    Modifier.abstract.StandsIn (modifierText h.modifiers)
  notAbstractFinal : h.kind = .classType →
    ¬(Modifier.abstract.StandsIn (modifierText h.modifiers) ∧
      Modifier.final.StandsIn (modifierText h.modifiers))

/-- Whether the modifiers that are written before a member are legal in a type, and whether the
member is. -/
structure Member.HasLegalModifiers (owner : TypeHeader) (m : Member) : Prop where
  text : IsModifierText (modifierText m.modifiers)
  abstractMethod : ∀ e, m = .executable e → e.form.kind = .method →
    Modifier.abstract.StandsIn (modifierText m.modifiers) →
      e.body = none ∧
      (∀ k ∈ [Modifier.privateAccess, .static, .final, .synchronized, .native, .strictfp],
        ¬k.StandsIn (modifierText m.modifiers)) ∧
      owner.kind = .classType ∧ Modifier.abstract.StandsIn (modifierText owner.modifiers)
  field : ∀ f, m = .field f →
    ¬(Modifier.final.StandsIn (modifierText m.modifiers) ∧
      Modifier.volatile.StandsIn (modifierText m.modifiers))
  default_iff : Modifier.default.StandsIn (modifierText m.modifiers) ↔
    owner.kind = .interfaceType ∧ ∃ e, m = .executable e ∧ e.form.kind = .method ∧
      e.body.isSome = true ∧ ¬Modifier.static.StandsIn (modifierText m.modifiers)
  privateMethod : owner.kind = .interfaceType → ∀ e, m = .executable e → e.form.kind = .method →
    Modifier.privateAccess.StandsIn (modifierText m.modifiers) →
      Modifier.static.StandsIn (modifierText m.modifiers)
  notConstructor : owner.kind = .interfaceType → ∀ e, m = .executable e →
    e.form.kind ≠ .constructor

/-- Whether the modifiers of a type and of all its members are legal. -/
structure TypeDecl.HasLegalModifiers (t : TypeDecl) : Prop where
  header : t.header.HasLegalModifiers
  members : ∀ m ∈ t.members, m.HasLegalModifiers t.header

/-- What is declared in a class is declared in a type that is a class. -/
theorem TypeKind.site_eq_inClass_iff {k : TypeKind} : k.site = .inClass ↔ k = .classType := by
  cases k <;> decide

/-- What is declared in an interface is declared in a type that is an interface. -/
theorem TypeKind.site_eq_inInterface_iff {k : TypeKind} :
    k.site = .inInterface ↔ k = .interfaceType := by
  cases k <;> decide

namespace TypeHeader

/-- The modifiers of a type do not depend on what edits may change of it. -/
theorem hasLegalModifiers_declared_iff {h : TypeHeader} :
    h.declared.HasLegalModifiers ↔ h.HasLegalModifiers :=
  ⟨fun h => ⟨h.text, h.notDefault, h.abstract, h.notAbstractFinal⟩,
    fun h => ⟨h.text, h.notDefault, h.abstract, h.notAbstractFinal⟩⟩

/-- A type that is declared in the same way has legal modifiers as well. -/
theorem HasLegalModifiers.of_declared_eq {g h : TypeHeader} (hg : g.HasLegalModifiers)
    (e : h.declared = g.declared) : h.HasLegalModifiers := by
  rw [← hasLegalModifiers_declared_iff] at hg ⊢
  rwa [e]

end TypeHeader

namespace Member

/-- The modifiers of a member do not depend on what edits may change of the type around it. -/
theorem hasLegalModifiers_declared_iff {owner : TypeHeader} {m : Member} :
    m.HasLegalModifiers owner.declared ↔ m.HasLegalModifiers owner :=
  ⟨fun h => ⟨h.text, h.abstractMethod, h.field, h.default_iff, h.privateMethod, h.notConstructor⟩,
    fun h => ⟨h.text, h.abstractMethod, h.field, h.default_iff, h.privateMethod, h.notConstructor⟩⟩

/-- In a type that is declared in the same way a member has legal modifiers as well. -/
theorem HasLegalModifiers.of_owner_declared_eq {m : Member} {g h : TypeHeader}
    (hm : m.HasLegalModifiers g) (e : h.declared = g.declared) : m.HasLegalModifiers h := by
  rw [← hasLegalModifiers_declared_iff] at hm ⊢
  rwa [e]

/-- Of a nested type it matters here only what is written before it. -/
theorem hasLegalModifiers_type_iff {owner header : TypeHeader} {identities : List Identity}
    {members : List Member} :
    (Member.type header identities members).HasLegalModifiers owner ↔
      IsModifierText (modifierText header.modifiers) ∧
        ¬Modifier.default.StandsIn (modifierText header.modifiers) := by
  constructor
  · intro h
    refine ⟨h.text, fun hdefault => ?_⟩
    obtain ⟨-, e, he, -⟩ := h.default_iff.mp hdefault
    cases he
  · rintro ⟨htext, hdefault⟩
    have hnever : ¬(owner.kind = .interfaceType ∧ ∃ e, Member.type header identities members =
        .executable e ∧ e.form.kind = .method ∧ e.body.isSome = true ∧
          ¬Modifier.static.StandsIn (modifierText header.modifiers)) := by
      rintro ⟨-, e, he, -⟩
      cases he
    exact ⟨htext, nofun, nofun, iff_of_false hdefault hnever, nofun, nofun⟩

/-- A nested type that is declared in the same way has legal modifiers as well. -/
theorem HasLegalModifiers.of_nested_declared_eq {owner : TypeHeader} {v v' : TypeDecl}
    (hv : v.toMember.HasLegalModifiers owner) (e : v'.header.declared = v.header.declared) :
    v'.toMember.HasLegalModifiers owner := by
  have hmodifiers : v'.header.modifiers = v.header.modifiers := by
    show v'.header.declared.modifiers = v.header.declared.modifiers
    rw [e]
  rw [TypeDecl.toMember, hasLegalModifiers_type_iff] at hv ⊢
  rwa [hmodifiers]

end Member

/-- A field has legal modifiers if they were accepted. -/
theorem Field.hasLegalModifiers {owner : TypeHeader} {f : Field} {enclosingAbstract : Bool}
    {requested : ModifierSet} {a : AcceptedModifiers}
    (h : (Subject.mk .field owner.kind.site f.name false enclosingAbstract).judge requested = .ok a)
    (hf : f.modifiers = a.emitted) : (Member.field f).HasLegalModifiers owner where
  text := by
    show IsModifierText (modifierText f.modifiers)
    exact hf ▸ Subject.isModifierText_of_judge h
  abstractMethod _ he := by cases he
  field g _ := by
    show ¬(Modifier.final.StandsIn (modifierText f.modifiers) ∧
      Modifier.volatile.StandsIn (modifierText f.modifiers))
    rw [Modifier.standsIn_modifierText, Modifier.standsIn_modifierText, hf]
    exact Subject.field_of_judge h rfl
  default_iff := by
    show Modifier.default.StandsIn (modifierText f.modifiers) ↔ _
    rw [Modifier.standsIn_modifierText, hf, Subject.default_mem_iff_of_judge h]
    refine iff_of_false (fun hkind => by cases hkind.1) ?_
    rintro ⟨-, e, he, -⟩
    cases he
  privateMethod _ _ he := by cases he
  notConstructor _ _ he := by cases he

/-- A constructor or method whose modifiers were accepted has legal ones, if the text of its class
says that it is abstract whenever this was asked for. -/
theorem Executable.hasLegalModifiers {owner : TypeHeader} {e : Executable} {hasBody : Bool}
    {requested : ModifierSet} {a : AcceptedModifiers}
    (h : (Subject.mk e.form.kind owner.kind.site e.name hasBody owner.isAbstract).judge requested =
      .ok a)
    (hbody : e.form.kind = .method → hasBody = e.body.isSome) (he : e.modifiers = a.emitted)
    (howner : owner.HasLegalModifiers) : (Member.executable e).HasLegalModifiers owner where
  text := by
    show IsModifierText (modifierText e.modifiers)
    exact he ▸ Subject.isModifierText_of_judge h
  abstractMethod e' heq hkind habstract := by
    cases heq
    simp only [Member.modifiers, Modifier.standsIn_modifierText, he] at habstract ⊢
    obtain ⟨hnone, hsite, henclosing, hnot⟩ := Subject.abstract_method_of_judge h hkind habstract
    have hclass := TypeKind.site_eq_inClass_iff.mp hsite
    refine ⟨?_, hnot, hclass, ?_⟩
    · rw [hbody hkind] at hnone
      simpa using hnone
    · exact Modifier.standsIn_modifierText.mp (howner.abstract hclass henclosing)
  field _ hf := by cases hf
  default_iff := by
    show Modifier.default.StandsIn (modifierText e.modifiers) ↔
      owner.kind = .interfaceType ∧ ∃ e', Member.executable e = .executable e' ∧
        e'.form.kind = .method ∧ e'.body.isSome = true ∧
          ¬Modifier.static.StandsIn (modifierText e.modifiers)
    simp only [Modifier.standsIn_modifierText, he, Subject.default_mem_iff_of_judge h,
      TypeKind.site_eq_inInterface_iff, Member.executable.injEq, exists_eq_left']
    constructor
    · rintro ⟨hkind, hinterface, hhas, hstatic⟩
      exact ⟨hinterface, hkind, hbody hkind ▸ hhas, hstatic⟩
    · rintro ⟨hinterface, hkind, hhas, hstatic⟩
      exact ⟨hkind, hinterface, (hbody hkind).trans hhas, hstatic⟩
  privateMethod hinterface e' heq hkind := by
    cases heq
    simp only [Member.modifiers, Modifier.standsIn_modifierText, he]
    exact (Subject.method_in_interface_of_judge h hkind
      (TypeKind.site_eq_inInterface_iff.mpr hinterface)).2
  notConstructor hinterface e' heq hkind := by
    cases heq
    have hsite := TypeKind.site_eq_inClass_iff.mp (Subject.site_of_judge_constructor h hkind)
    rw [hinterface] at hsite
    cases hsite

/-- A type has legal modifiers if they were accepted. -/
theorem TypeSpec.header_hasLegalModifiers {s : TypeSpec} {site : Site} {category : Category}
    {a : AcceptedModifiers} (h : (s.subject site).judge s.modifiers = .ok a) :
    (s.header category a.emitted).HasLegalModifiers where
  text := Subject.isModifierText_of_judge h
  notDefault := by
    show ¬Modifier.default.StandsIn (modifierText a.emitted)
    rw [Modifier.standsIn_modifierText, Subject.default_mem_iff_of_judge h]
    rintro ⟨hkind, -⟩
    cases hs : s.kind <;> rw [Subject.kind, TypeSpec.subject, hs] at hkind <;> cases hkind
  abstract hkind habstract := by
    show Modifier.abstract.StandsIn (modifierText a.emitted)
    have hclass : (s.subject site).kind = .classType :=
      congrArg TypeKind.declarationKind (show s.kind = .classType from hkind)
    rw [Modifier.standsIn_modifierText]
    exact (Subject.class_of_judge h hclass).1 habstract
  notAbstractFinal hkind := by
    show ¬(Modifier.abstract.StandsIn (modifierText a.emitted) ∧
      Modifier.final.StandsIn (modifierText a.emitted))
    have hclass : (s.subject site).kind = .classType :=
      congrArg TypeKind.declarationKind (show s.kind = .classType from hkind)
    rw [Modifier.standsIn_modifierText, Modifier.standsIn_modifierText]
    exact (Subject.class_of_judge h hclass).2

namespace TypeDecl

/-- A member with legal modifiers keeps the modifiers of the type legal. -/
theorem HasLegalModifiers.withMember {t : TypeDecl} (ht : t.HasLegalModifiers) {m : Member}
    (hm : m.HasLegalModifiers t.header) : (t.withMember m).HasLegalModifiers := by
  refine ⟨ht.header, fun m' hm' => ?_⟩
  rcases List.mem_append.mp hm' with hm' | hm'
  · exact ht.members m' hm'
  · exact List.mem_singleton.mp hm' ▸ hm

/-- An accepted edit keeps the modifiers of a type legal. -/
theorem HasLegalModifiers.edit {t : TypeDecl} (ht : t.HasLegalModifiers) {p : Place} {ed : Edit}
    {e : Effect} (he : t.edit p ed = .ok e) : e.type.HasLegalModifiers := by
  cases h : ed.declaresMember with
  | false =>
    obtain ⟨header, htype, hdeclared⟩ := edit_type_of_not_declaresMember h he
    rw [htype]
    exact ⟨ht.header.of_declared_eq hdeclared,
      fun m hm => (ht.members m hm).of_owner_declared_eq hdeclared⟩
  | true =>
    cases ed with
    | field spec =>
      obtain ⟨-, category, accepted, -, haccepted, -, rfl⟩ := declareField_eq_ok_iff.mp he
      exact ht.withMember (Field.hasLegalModifiers haccepted rfl)
    | method spec =>
      obtain ⟨-, category, accepted, -, haccepted, -, rfl⟩ := declareMethod_eq_ok_iff.mp he
      exact ht.withMember
        (Executable.hasLegalModifiers haccepted (fun _ => rfl) rfl ht.header)
    | constructor spec =>
      obtain ⟨category, accepted, -, haccepted, -, rfl⟩ := declareConstructor_eq_ok_iff.mp he
      exact ht.withMember (Executable.hasLegalModifiers haccepted (fun hkind => by cases hkind)
        rfl ht.header)
    | nestedType spec =>
      obtain ⟨nested, hnested, -, rfl⟩ := declareNested_eq_ok_iff.mp he
      obtain ⟨-, -, -, category, accepted, -, haccepted, rfl⟩ :=
        TypeSpec.declare_eq_ok_iff.mp hnested
      have hheader : (spec.header category accepted.emitted).HasLegalModifiers :=
        TypeSpec.header_hasLegalModifiers haccepted
      exact ht.withMember
        (Member.hasLegalModifiers_type_iff.mpr ⟨hheader.text, hheader.notDefault⟩)
    | _ => simp [Edit.declaresMember] at h

/-- That modifiers are legal is an invariant. -/
theorem invariant_hasLegalModifiers : Invariant HasLegalModifiers where
  declare {s site p e} h := by
    obtain ⟨-, -, -, category, accepted, -, haccepted, rfl⟩ := TypeSpec.declare_eq_ok_iff.mp h
    exact ⟨TypeSpec.header_hasLegalModifiers haccepted, nofun⟩
  edit he ht := ht.edit he
  nested {header identities before after v v'} h ht := by
    refine ⟨ht.header, fun m hm => ?_⟩
    simp only [List.mem_append, List.mem_cons] at hm
    rcases hm with hm | rfl | hm
    · exact ht.members m (List.mem_append_left _ hm)
    · have hv := ht.members v.toMember (List.mem_append_right _ List.mem_cons_self)
      exact hv.of_nested_declared_eq h
    · exact ht.members m (List.mem_append_right _ (List.mem_cons_of_mem _ hm))

end TypeDecl

namespace Session

/-- Every type of every unit that is reached has legal modifiers, and so have all its members. -/
theorem modifiers_legal_everywhere (actions : List Action) (u : CompilationUnit)
    (hu : u ∈ (empty.performAll actions).units) :
    u.root.Everywhere TypeDecl.HasLegalModifiers := by
  obtain ⟨i, hi⟩ := List.getElem?_of_mem hu
  exact (built_of_getElem? hi).everywhere TypeDecl.invariant_hasLegalModifiers

/-- An abstract class may have an abstract method, and an interface in it a method with a body,
which is written `default`. -/
theorem modifiers_legal_everywhere_shape :
    let session := empty.performAll
      [.openUnit "shapes" { kind := .classType, name := "Shape", modifiers := .ofInt 0x401 },
        .edit ⟨0, []⟩ (.method { returnType := .primitive "double", name := "area"
                                 options := { modifiers := .ofInt 0x401 } }),
        .edit ⟨0, []⟩ (.nestedType { kind := .interfaceType, name := "Visitor" }),
        .edit ⟨0, ["Visitor"]⟩ (.method { returnType := .primitive "void", name := "visit"
                                          body := some "" })]
    ∃ u ∈ session.units,
      u.root.members.map (fun m => modifierText m.modifiers) = ["public abstract", ""] ∧
      (u.root.find? ["Visitor"]).map (fun t => t.members.map fun m => modifierText m.modifiers) =
        some ["default"] ∧
      u.root.Everywhere TypeDecl.HasLegalModifiers := by
  intro session
  have hunit : (session.units[0]?).map (fun u =>
      (u.root.members.map (fun m => modifierText m.modifiers),
        (u.root.find? ["Visitor"]).map fun t => t.members.map fun m => modifierText m.modifiers)) =
      some (["public abstract", ""], some ["default"]) := rfl
  obtain ⟨u, hu, htexts⟩ := Option.map_eq_some_iff.mp hunit
  obtain ⟨houter, hinner⟩ := Prod.mk.inj htexts
  have hmem := List.mem_of_getElem? hu
  exact ⟨u, hmem, houter, hinner, modifiers_legal_everywhere _ u hmem⟩

end Session

end JavaScribe
