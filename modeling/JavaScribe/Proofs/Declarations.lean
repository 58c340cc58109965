import JavaScribe.Proofs.ReachableSession
import JavaScribe.Proofs.MemberOrder
import JavaScribe.Proofs.ImportSets

/-!
# Declarations in a row

What the declaration of a member adds is a `Declaration`: the member, imports, warnings and records.
It is told by the header of the type and by the call alone, so it can be worked out before any of
the calls are made (`TypeDecl.declaration?`).  Several calls in a row are all accepted if and only
if each of them declares something and no identity comes twice
(`Session.declarations_of_accepts`, `Session.accepts_declarations`), and then the unit has grown by
what they declare, in their order.
-/

set_option autoImplicit false

namespace JavaScribe

/-- By what a constructor or method that is declared with the options is ordered. -/
def MemberOptions.executableKey (o : MemberOptions) (weight : Nat) (name : String)
    (ps : List Parameter) : MemberKey :=
  if o.preserveOrder then ⟨o.category, weight, name, 1, []⟩
  else ⟨o.category, weight, name, 0, ps.map fun p => p.type.simpleName⟩

/-- By what the member is ordered that an edit declares in a type, if it declares one. -/
def Edit.memberKey? (owner : TypeHeader) : Edit → Option MemberKey
  | .field spec => some ⟨spec.options.category, 0, spec.name, 0, []⟩
  | .method spec => some (spec.options.executableKey 2 spec.name spec.parameters)
  | .constructor spec => some (spec.options.executableKey 1 owner.name spec.parameters)
  | .nestedType spec => some ⟨spec.category, 3, spec.name, 0, []⟩
  | _ => none

/-- What the declaration of a member adds. -/
structure Declaration where
  member : Member
  imports : List ImportEntry
  warnings : List String
  log : Log

/-- The effect of a declaration on a type. -/
def Declaration.effect (d : Declaration) (t : TypeDecl) : Effect :=
  ⟨t.withMember d.member, d.imports, d.warnings, d.log⟩

namespace TypeDecl

/-- What an edit declares in a type, if it is legal there apart from its identity. -/
def declaration? (t : TypeDecl) (p : Place) (ed : Edit) : Option Declaration :=
  match t.bare.edit p ed with
  | .ok e => e.type.members.head?.map fun m => ⟨m, e.imports, e.warnings, e.log⟩
  | .error _ => none

/-- What is declared is what the edit does to a type without members. -/
theorem declaration?_eq_some_iff {t : TypeDecl} {p : Place} {ed : Edit} {d : Declaration}
    (h : ed.declaresMember = true) :
    t.declaration? p ed = some d ↔ t.bare.edit p ed = .ok (d.effect t.bare) := by
  unfold declaration?
  cases hedit : t.bare.edit p ed with
  | error e => simp
  | ok e =>
    obtain ⟨e₀, m, -, -, -, rfl⟩ := (edit_eq_ok_iff_of_declaresMember h).mp hedit
    show some (Declaration.mk m e₀.imports e₀.warnings e₀.log) = some d ↔ _
    rw [Option.some.injEq, Except.ok.injEq]
    constructor
    · rintro rfl
      rfl
    · intro heffect
      have hm := withMember_inj.mp (congrArg Effect.type heffect)
      obtain ⟨member, imports, warnings, log⟩ := d
      simp only [Declaration.effect, Effect.mk.injEq] at heffect
      obtain ⟨-, rfl, rfl, rfl⟩ := heffect
      rw [hm]

/-- An edit that declares a member is accepted if it declares something new. -/
theorem edit_eq_ok_iff_declaration? {t : TypeDecl} {p : Place} {ed : Edit} {e : Effect}
    (h : ed.declaresMember = true) :
    t.edit p ed = .ok e ↔ ∃ d, t.declaration? p ed = some d ∧
      d.member.identity ∉ t.identities ∧ e = d.effect t := by
  rw [edit_eq_ok_iff_of_declaresMember h]
  constructor
  · rintro ⟨e₀, m, hbare, htype, hnew, rfl⟩
    refine ⟨⟨m, e₀.imports, e₀.warnings, e₀.log⟩, ?_, hnew, rfl⟩
    rw [declaration?_eq_some_iff h, hbare, Declaration.effect, ← htype]
  · rintro ⟨d, hd, hnew, rfl⟩
    exact ⟨_, d.member, (declaration?_eq_some_iff h).mp hd, rfl, hnew, rfl⟩

/-- What is known of a declaration from the edit: the key of its member, and that it adds the
imports that mentions of types need. -/
theorem declaration?_spec {t : TypeDecl} {p : Place} {ed : Edit} {d : Declaration}
    (h : ed.declaresMember = true) (hd : t.declaration? p ed = some d) :
    ed.memberKey? t.header = some d.member.key ∧ ∃ ns, d.imports = importsOf ns := by
  have hedit := (declaration?_eq_some_iff h).mp hd
  cases ed with
  | field spec =>
    obtain ⟨-, category, accepted, hcategory, -, -, he⟩ := declareField_eq_ok_iff.mp hedit
    have hm := withMember_inj.mp (congrArg Effect.type he)
    refine ⟨?_, _, congrArg Effect.imports he⟩
    rw [hm, Edit.memberKey?, Member.key, Category.tag_of_parse hcategory]
  | method spec =>
    obtain ⟨-, category, accepted, hcategory, -, -, he⟩ := declareMethod_eq_ok_iff.mp hedit
    have hm := withMember_inj.mp (congrArg Effect.type he)
    refine ⟨?_, _, congrArg Effect.imports he⟩
    rw [hm, Edit.memberKey?, Member.key, Executable.key, Category.tag_of_parse hcategory]
    rfl
  | constructor spec =>
    obtain ⟨category, accepted, hcategory, -, -, he⟩ := declareConstructor_eq_ok_iff.mp hedit
    have hm := withMember_inj.mp (congrArg Effect.type he)
    refine ⟨?_, _, congrArg Effect.imports he⟩
    rw [hm, Edit.memberKey?, Member.key, Executable.key, Category.tag_of_parse hcategory]
    rfl
  | nestedType spec =>
    obtain ⟨nested, hnested, -, he⟩ := declareNested_eq_ok_iff.mp hedit
    obtain ⟨-, -, -, category, accepted, hcategory, -, rfl⟩ :=
      TypeSpec.declare_eq_ok_iff.mp hnested
    have hm := withMember_inj.mp (congrArg Effect.type he)
    refine ⟨?_, _, congrArg Effect.imports he⟩
    rw [hm, Edit.memberKey?, ← Category.tag_of_parse hcategory]
    rfl
  | _ => simp [Edit.declaresMember] at h

/-- A declaration of a member imports single types only. -/
theorem isSingle_of_declaration? {t : TypeDecl} {p : Place} {ed : Edit} {d : Declaration}
    (h : ed.declaresMember = true) (hd : t.declaration? p ed = some d) :
    ∀ e ∈ d.imports, e.IsSingle := by
  obtain ⟨-, ns, hns⟩ := declaration?_spec h hd
  intro e he
  rw [hns, importsOf, List.mem_map] at he
  obtain ⟨n, -, rfl⟩ := he
  exact ImportEntry.isSingle_ofTypeName n

end TypeDecl

namespace CompilationUnit

/-- What an edit of the top-level type declares. -/
def declaration? (u : CompilationUnit) (ed : Edit) : Option Declaration :=
  u.root.declaration? (u.place []) ed

/-- The unit when its top-level type has grown by declarations. -/
def extend (u : CompilationUnit) (ds : List Declaration) : CompilationUnit where
  root := { u.root with
    identities := u.root.identities ++ ds.map fun d => d.member.identity
    members := u.root.members ++ ds.map Declaration.member }
  imports := u.imports.addAll (ds.flatMap Declaration.imports)
  warnings := u.warnings ++ ds.flatMap Declaration.warnings

/-- Without declarations a unit stays as it is. -/
theorem extend_nil (u : CompilationUnit) : u.extend [] = u := by
  simp only [extend, List.map_nil, List.flatMap_nil, List.append_nil]
  rfl

/-- Declarations extend a unit one after the other. -/
theorem extend_cons (u : CompilationUnit) (d : Declaration) (ds : List Declaration) :
    u.extend (d :: ds) = (u.extend [d]).extend ds := by
  simp only [extend, List.map_cons, List.map_nil, List.flatMap_cons, List.flatMap_nil,
    List.append_nil, List.append_assoc, List.singleton_append, ImportSet.addAll,
    List.foldl_append]

/-- Declarations do not change the package of a unit. -/
theorem package_extend (u : CompilationUnit) (ds : List Declaration) :
    (u.extend ds).package = u.package := ImportSet.package_addAll _ _

/-- What an edit declares does not change when the unit has grown. -/
theorem declaration?_extend (u : CompilationUnit) (ds : List Declaration) :
    (u.extend ds).declaration? = u.declaration? := by
  have hplace : (u.extend ds).place [] = u.place [] := by
    unfold place
    rw [package_extend]
    rfl
  funext ed
  unfold declaration?
  rw [hplace]
  rfl

/-- An edit of the top-level type that declares a member is accepted if it declares something new,
and then the unit grows by it. -/
theorem edit_root_eq_ok_iff {u v : CompilationUnit} {ed : Edit} {log : Log}
    (h : ed.declaresMember = true) :
    u.edit [] ed = .ok (v, log) ↔ ∃ d, u.declaration? ed = some d ∧
      d.member.identity ∉ u.root.identities ∧ v = u.extend [d] ∧ log = d.log := by
  have happly : ∀ d : Declaration, u.apply [] (d.effect u.root) = u.extend [d] := by
    intro d
    simp only [apply, extend, Declaration.effect, TypeDecl.update, TypeDecl.withMember,
      List.map_cons, List.map_nil, List.flatMap_cons, List.flatMap_nil, List.append_nil]
  rw [edit_eq_ok_iff]
  constructor
  · rintro ⟨t, e, hfind, he, rfl, rfl⟩
    obtain rfl : u.root = t := Option.some.inj hfind
    obtain ⟨d, hd, hnew, rfl⟩ := (TypeDecl.edit_eq_ok_iff_declaration? h).mp he
    exact ⟨d, hd, hnew, happly d, rfl⟩
  · rintro ⟨d, hd, hnew, rfl, rfl⟩
    refine ⟨u.root, d.effect u.root, rfl, ?_, (happly d).symm, rfl⟩
    exact (TypeDecl.edit_eq_ok_iff_declaration? h).mpr ⟨d, hd, hnew, rfl⟩

end CompilationUnit

namespace Session

/-- Whether all of several actions are accepted when they are performed in turn. -/
def Accepts : Session → List Action → Prop
  | _, [] => True
  | s, a :: as => (s.perform a).outcome = .ok () ∧ (s.perform a).session.Accepts as

section Run

variable {actions : List Action} {i : Nat} {u : CompilationUnit}

/-- A declaration in the top-level type of a unit is accepted if it is new, and the unit grows by
it. -/
theorem perform_declaration (hu : (empty.performAll actions).units[i]? = some u) {ed : Edit}
    (h : ed.declaresMember = true) {d : Declaration} (hd : u.declaration? ed = some d)
    (hnew : d.member.identity ∉ u.root.identities) :
    ((empty.performAll actions).perform (.edit ⟨i, []⟩ ed)).outcome = .ok () ∧
      (empty.performAll (actions ++ [.edit ⟨i, []⟩ ed])).units[i]? = some (u.extend [d]) := by
  have hedit := (CompilationUnit.edit_root_eq_ok_iff h).mpr ⟨d, hd, hnew, rfl, rfl⟩
  obtain ⟨hlt, -⟩ := List.getElem?_eq_some_iff.mp hu
  rw [performAll_concat, perform_eq_judged fun v hv => coherent_of_mem_units hv]
  simp only [act, hu]
  rw [hedit]
  exact ⟨rfl, List.getElem?_set_self hlt⟩

/-- If a declaration in the top-level type of a unit is accepted, it declares something new. -/
theorem declaration?_of_accepted (hu : (empty.performAll actions).units[i]? = some u) {ed : Edit}
    (h : ed.declaresMember = true)
    (haccepted : ((empty.performAll actions).perform (.edit ⟨i, []⟩ ed)).outcome = .ok ()) :
    ∃ d, u.declaration? ed = some d ∧ d.member.identity ∉ u.root.identities := by
  rw [perform_eq_judged fun v hv => coherent_of_mem_units hv] at haccepted
  simp only [act, hu] at haccepted
  cases hedit : u.edit [] ed with
  | error e =>
    rw [hedit] at haccepted
    cases haccepted
  | ok r =>
    obtain ⟨d, hd, hnew, -⟩ := (CompilationUnit.edit_root_eq_ok_iff h).mp hedit
    exact ⟨d, hd, hnew⟩

/-- If declarations in the top-level type of a unit are all accepted, each of them declares
something, and no identity comes twice. -/
theorem declarations_of_accepts (hu : (empty.performAll actions).units[i]? = some u)
    {eds : List Edit} (heds : ∀ ed ∈ eds, ed.declaresMember = true)
    (hnodup : u.root.identities.Nodup)
    (haccepts : (empty.performAll actions).Accepts (eds.map (.edit ⟨i, []⟩))) :
    (∀ ed ∈ eds, ∃ d, u.declaration? ed = some d) ∧
      (u.root.identities ++
        (eds.filterMap u.declaration?).map fun d => d.member.identity).Nodup := by
  induction eds generalizing actions u with
  | nil => exact ⟨by simp, by simpa using hnodup⟩
  | cons ed eds ih =>
    obtain ⟨hfirst, hrest⟩ := haccepts
    have hed := heds ed List.mem_cons_self
    obtain ⟨d, hd, hnew⟩ := declaration?_of_accepted hu hed hfirst
    obtain ⟨-, hu'⟩ := perform_declaration hu hed hd hnew
    have hnodup' : (u.extend [d]).root.identities.Nodup :=
      List.nodup_append.mpr ⟨hnodup, by simp, by
        intro j hj k hk hjk
        rw [List.map_singleton, List.mem_singleton] at hk
        exact hnew (hk ▸ hjk ▸ hj)⟩
    rw [← performAll_concat] at hrest
    obtain ⟨hdeclared, hall⟩ :=
      ih hu' (fun ed' hed' => heds ed' (List.mem_cons_of_mem _ hed')) hnodup' hrest
    rw [CompilationUnit.declaration?_extend] at hdeclared hall
    constructor
    · intro ed' hed'
      rcases List.mem_cons.mp hed' with rfl | hed'
      · exact ⟨d, hd⟩
      · exact hdeclared ed' hed'
    · rw [List.filterMap_cons_some hd, List.map_cons]
      rw [CompilationUnit.extend, List.map_singleton, List.append_assoc,
        List.singleton_append] at hall
      exact hall

/-- If each of several edits of the top-level type of a unit declares something, and no identity
comes twice, all are accepted, and the unit grows by what they declare. -/
theorem accepts_declarations (hu : (empty.performAll actions).units[i]? = some u)
    {eds : List Edit} (heds : ∀ ed ∈ eds, ed.declaresMember = true)
    (hdeclared : ∀ ed ∈ eds, ∃ d, u.declaration? ed = some d)
    (hnodup : (u.root.identities ++
      (eds.filterMap u.declaration?).map fun d => d.member.identity).Nodup) :
    (empty.performAll actions).Accepts (eds.map (.edit ⟨i, []⟩)) ∧
      ((empty.performAll actions).performAll (eds.map (.edit ⟨i, []⟩))).units[i]? =
        some (u.extend (eds.filterMap u.declaration?)) := by
  induction eds generalizing actions u with
  | nil =>
    rw [List.filterMap_nil, CompilationUnit.extend_nil]
    exact ⟨trivial, hu⟩
  | cons ed eds ih =>
    obtain ⟨d, hd⟩ := hdeclared ed List.mem_cons_self
    rw [List.filterMap_cons_some hd] at hnodup ⊢
    -- `d` is new because identities before it and its own are in one list without repetitions
    have hnew : d.member.identity ∉ u.root.identities := by
      intro hmem
      exact (List.nodup_append.mp hnodup).2.2 _ hmem _ List.mem_cons_self rfl
    obtain ⟨hfirst, hu'⟩ := perform_declaration hu (heds ed List.mem_cons_self) hd hnew
    have hextend := CompilationUnit.declaration?_extend u [d]
    have hrest := ih hu' (fun ed' hed' => heds ed' (List.mem_cons_of_mem _ hed'))
      (fun ed' hed' => hextend ▸ hdeclared ed' (List.mem_cons_of_mem _ hed'))
      (by
        rw [hextend, CompilationUnit.extend, List.map_singleton, List.append_assoc,
          List.singleton_append]
        exact hnodup)
    rw [hextend, ← CompilationUnit.extend_cons, performAll_concat] at hrest
    exact ⟨⟨hfirst, hrest.1⟩, hrest.2⟩

end Run

end Session

end JavaScribe
