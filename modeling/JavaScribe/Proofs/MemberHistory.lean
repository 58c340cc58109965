import JavaScribe.Proofs.TreeIsolation

/-!
# The history of members

The members of a type that is reached are, one after the other, those that the edits declared that
were accepted on the type (`Session.declaredBy_performAll`).  That is to say that no accepted
declaration is lost or taken twice, and that nothing else is ever counted as a member.

Two things change after a declaration, and neither counts here.  A nested type may get members of
its own, so members are compared as the type around them has them (`Member.listed`).  The type
itself may get annotations, interfaces and type parameters; what an edit declares does not depend on
these (`Edit.Declares.of_declared_eq`), so it may be told by the type as it is in the end.
-/

set_option autoImplicit false

namespace JavaScribe

/-- Whether an edit is the declaration of a member, seen as the type around it has it. -/
def Edit.Lists (owner : TypeHeader) (p : Place) (ed : Edit) (listed : Member) : Prop :=
  ∃ m, ed.Declares owner p m ∧ listed = m.listed

/-- Whether members are, one after the other, those that the declarations among edits declare. -/
def DeclaredBy (owner : TypeHeader) (p : Place) (edits : List Edit) (members : List Member) :
    Prop :=
  List.Forall₂ (Edit.Lists owner p) (edits.filter Edit.declaresMember) (members.map Member.listed)

/-- Nothing counts for a declaration but how the type around it was declared itself. -/
theorem Edit.Declares.of_declared_eq {owner owner' : TypeHeader} {p : Place} {ed : Edit}
    {m : Member} (h : ed.Declares owner p m) (heq : owner'.declared = owner.declared) :
    ed.Declares owner' p m := by
  have hkind : owner'.kind = owner.kind := by
    show owner'.declared.kind = owner.declared.kind
    rw [heq]
  have hname : owner'.name = owner.name := TypeHeader.name_eq_of_declared_eq heq
  have habstract : owner'.isAbstract = owner.isAbstract := by
    show owner'.declared.isAbstract = owner.declared.isAbstract
    rw [heq]
  cases h with
  | field hlegal hcategory haccepted =>
    apply Edit.Declares.field hlegal hcategory
    rw [hkind, habstract]
    exact haccepted
  | method hlegal hcategory haccepted =>
    apply Edit.Declares.method hlegal hcategory
    rw [hkind, habstract]
    exact haccepted
  | constructor hcategory haccepted =>
    rw [← hname]
    apply Edit.Declares.constructor hcategory
    rw [hkind, hname, habstract]
    exact haccepted
  | nestedType hsuperclass hlegal hpackage hcategory haccepted =>
    apply Edit.Declares.nestedType hsuperclass hlegal hpackage hcategory
    rw [hkind]
    exact haccepted

/-- What a type was declared with tells the history of its members. -/
theorem DeclaredBy.of_declared_eq {owner owner' : TypeHeader} {p : Place} {edits : List Edit}
    {members : List Member} (h : DeclaredBy owner p edits members)
    (heq : owner'.declared = owner.declared) : DeclaredBy owner' p edits members := by
  unfold DeclaredBy at h ⊢
  refine h.imp ?_
  rintro ed listed ⟨m, hm, rfl⟩
  exact ⟨m, hm.of_declared_eq heq, rfl⟩

namespace TypeDecl

/-- An accepted edit adds itself to the history of the type. -/
theorem declaredBy_of_edit {t : TypeDecl} {p : Place} {ed : Edit} {e : Effect} {edits : List Edit}
    (h : DeclaredBy t.header p edits t.members) (he : t.edit p ed = .ok e) :
    DeclaredBy e.type.header p (edits ++ [ed]) e.type.members := by
  cases hdeclares : ed.declaresMember with
  | false =>
    obtain ⟨header, htype, hheader⟩ := edit_type_of_not_declaresMember hdeclares he
    have hedits : (edits ++ [ed]).filter Edit.declaresMember =
        edits.filter Edit.declaresMember := by
      rw [List.filter_append, List.filter_cons_of_neg (by simp [hdeclares]), List.filter_nil,
        List.append_nil]
    rw [htype]
    unfold DeclaredBy
    rw [hedits]
    exact h.of_declared_eq hheader
  | true =>
    obtain ⟨m, hm, htype⟩ := declares_of_edit hdeclares he
    rw [htype]
    unfold DeclaredBy withMember
    rw [List.filter_append, List.filter_cons_of_pos hdeclares, List.filter_nil, List.map_append]
    apply List.rel_append h
    exact .cons ⟨m, hm, rfl⟩ .nil

end TypeDecl

namespace Session

/-- The type at an address with its place and what it has by itself. -/
def own? (s : Session) (a : Address) : Option (Place × TypeDecl) :=
  (s.find? a).map fun r => (r.1.place a.path, r.2.own)

/-- What belongs to the type at an address, and the place of the type. -/
theorem own?_of_find? {s : Session} {a : Address} {u : CompilationUnit} {t : TypeDecl}
    (hfind : s.find? a = some (u, t)) : s.own? a = some (u.place a.path, t.own) := by
  rw [own?, hfind]
  rfl

/-- Only the unit of an address matters to what belongs to the type there. -/
theorem own?_eq_of_units {s s' : Session} {a : Address}
    (h : s'.units[a.unit]? = s.units[a.unit]?) : s'.own? a = s.own? a := by
  unfold own? find?
  rw [h]

/-- What belongs to the type at an address is looked up in the unit of the address. -/
theorem own?_eq_bind (s : Session) (a : Address) :
    s.own? a = (s.units[a.unit]?).bind fun u =>
      (u.root.ownAt? a.path).map fun own => (u.place a.path, own) := by
  unfold own? find?
  cases s.units[a.unit]? with
  | none => rfl
  | some u =>
    show ((u.root.find? a.path).map _).map _ = ((u.root.find? a.path).map _).map _
    rw [Option.map_map, Option.map_map]
    rfl

/-- Whether what a type has by itself stays, or the type is a new one that has nothing yet. -/
def KeptOrNew (before after : Option (Place × TypeDecl)) : Prop :=
  after = before ∨ before = none ∧ ∃ p header, after = some (p, ⟨header, [], []⟩)

/-- A unit that is opened comes after all others, and its type has nothing by itself. -/
theorem keptOrNew_of_openUnit {s : Session} {package : String} {spec : TypeSpec}
    {v : CompilationUnit} {log : Log} (h : CompilationUnit.declare package spec = .ok (v, log))
    (a : Address) : KeptOrNew (s.own? a) (own? ⟨s.units ++ [v]⟩ a) := by
  by_cases hlt : a.unit < s.units.length
  · left
    apply own?_eq_of_units
    exact List.getElem?_append_left hlt
  · have hle := Nat.le_of_not_lt hlt
    have hbefore : s.own? a = none := by
      rw [own?_eq_bind, List.getElem?_eq_none hle, Option.bind_none]
    rw [hbefore, own?_eq_bind, List.getElem?_append_right hle]
    cases a.unit - s.units.length with
    | succ k =>
      left
      rfl
    | zero =>
      obtain ⟨e, he, rfl, -⟩ := CompilationUnit.declare_eq_ok_iff.mp h
      have hown := TypeDecl.ownAt?_of_declare he a.path
      rw [List.getElem?_cons_zero, Option.bind_some, hown]
      split
      · exact .inr ⟨rfl, _, _, rfl⟩
      · exact .inl rfl

/-- A call changes nothing that the types at other addresses have by themselves. -/
theorem ChangesOnly.keptOrNew {s s' : Session} {a b : Address} {ed : Edit}
    (h : s.ChangesOnly b ed s') (hne : b ≠ a) : KeptOrNew (s.own? a) (s'.own? a) := by
  by_cases hunit : a.unit = b.unit
  · have hpath : a.path ≠ b.path := fun hpath => hne (Address.eq_of_unit_eq hunit hpath).symm
    have hplace := h.place
    have hown := h.others a.path hpath
    rw [own?_eq_bind, own?_eq_bind, hunit]
    cases hbefore : s.units[b.unit]? with
    | none =>
      rw [hbefore] at hplace
      cases hafter : s'.units[b.unit]? with
      | none => exact .inl rfl
      | some v => simp [hafter] at hplace
    | some u =>
      rw [hbefore] at hplace hown
      cases hafter : s'.units[b.unit]? with
      | none => simp [hafter] at hplace
      | some v =>
        rw [hafter] at hplace hown
        have hroot : v.place [] = u.place [] := Option.some.inj hplace
        simp only [Option.bind_some] at hown ⊢
        rw [CompilationUnit.place_eq_of_root hroot a.path]
        rcases hown with hkept | ⟨hnone, spec, header, -, -, hnew⟩
        · rw [hkept]
          exact .inl rfl
        · rw [hnone, hnew]
          exact .inr ⟨rfl, _, header, rfl⟩
  · left
    apply own?_eq_of_units
    exact h.units a.unit hunit

/-- Whether a type, if there is one, has just the members that edits declared. -/
def Remembers : Option (Place × TypeDecl) → List Edit → Prop
  | some (p, own), edits => DeclaredBy own.header p edits own.members
  | none, edits => edits = []

/-- What belongs to a type alone tells the history of its members. -/
theorem declaredBy_own_iff {t : TypeDecl} {p : Place} {edits : List Edit} :
    DeclaredBy t.own.header p edits t.own.members ↔ DeclaredBy t.header p edits t.members := by
  have hlisted : ∀ m : Member, m.listed.listed = m.listed := by
    intro m
    cases m <;> rfl
  unfold DeclaredBy TypeDecl.own
  simp only [List.map_map, Function.comp_def, hlisted]

/-- The history of a type goes on where the type is kept or new. -/
theorem Remembers.of_keptOrNew {before after : Option (Place × TypeDecl)} {edits : List Edit}
    (h : Remembers before edits) (hafter : KeptOrNew before after) : Remembers after edits := by
  rcases hafter with rfl | ⟨rfl, p, header, rfl⟩
  · exact h
  · obtain rfl : edits = [] := h
    exact .nil

/-- One action keeps the history of each type: an edit that is accepted is part of the history of
the type that it is of. -/
theorem Remembers.perform {s : Session} (hs : ∀ u ∈ s.units, u.root.Coherent) {a : Address}
    {edits : List Edit} (h : Remembers (s.own? a) edits) (x : Action) :
    Remembers ((s.perform x).session.own? a) (edits ++ s.acceptedEditAt a x) := by
  cases x with
  | openUnit package spec =>
    rw [acceptedEditAt, List.append_nil, perform_eq_judged hs]
    simp only [act]
    cases hdeclare : CompilationUnit.declare package spec with
    | error e => exact h
    | ok r => exact h.of_keptOrNew (keptOrNew_of_openUnit hdeclare a)
  | edit b ed =>
    -- an edit elsewhere can at most declare the type at this address, which is new then
    by_cases hb : b = a
    · subst hb
      rw [acceptedEditAt, perform_eq_judged hs]
      simp only [act]
      cases hunit : s.units[b.unit]? with
      | none => simpa only [judged, List.append_nil] using h
      | some u =>
        cases hedit : u.edit b.path ed with
        | error e => simpa only [judged, bind, Except.bind, hedit, List.append_nil] using h
        | ok r =>
          obtain ⟨v, log⟩ := r
          obtain ⟨t, e, hpath, he, rfl, -⟩ := CompilationUnit.edit_eq_ok_iff.mp hedit
          have hu := hs u (List.mem_of_getElem? hunit)
          have hfind := find?_eq_some_iff.mpr ⟨hunit, hpath⟩
          have hfound := find?_of_edit hu hfind he
          have hplace : (u.apply b.path e).place b.path = u.place b.path := by
            have hchanges := (changesOnly_of_edit hu hfind he).place
            rw [(find?_eq_some_iff.mp hfound).1, hunit] at hchanges
            exact CompilationUnit.place_eq_of_root (Option.some.inj hchanges) b.path
          rw [own?_of_find? hfind] at h
          simp only [judged, bind, Except.bind, hedit, pure, Except.pure, if_true]
          rw [own?_of_find? hfound, hplace]
          have hbefore := declaredBy_own_iff.mp h
          exact declaredBy_own_iff.mpr (TypeDecl.declaredBy_of_edit hbefore he)
    · have hnone : s.acceptedEditAt a (.edit b ed) = [] := by
        rw [acceptedEditAt, if_neg hb]
        split <;> rfl
      rw [hnone, List.append_nil]
      apply h.of_keptOrNew
      exact (changesOnly_perform hs b ed).keptOrNew hb

/-- The members of the type at an address are remembered as the accepted edits on it. -/
theorem remembers_performAll (actions : List Action) (a : Address) :
    Remembers ((empty.performAll actions).own? a) (acceptedEditsAt a empty actions) := by
  induction actions using List.reverseRecOn with
  | nil => rfl
  | append_singleton xs x ih =>
    rw [acceptedEditsAt_concat, performAll_concat]
    exact ih.perform (fun u hu => coherent_of_mem_units hu) x

/-- The members of a type that is reached are, one after the other, those that the edits declared
that were accepted on it. -/
theorem declaredBy_performAll {actions : List Action} {a : Address} {u : CompilationUnit}
    {t : TypeDecl} (hfind : (empty.performAll actions).find? a = some (u, t)) :
    DeclaredBy t.header (u.place a.path) (acceptedEditsAt a empty actions) t.members := by
  have hremembers := remembers_performAll actions a
  rw [own?_of_find? hfind] at hremembers
  exact declaredBy_own_iff.mp hremembers

end Session

end JavaScribe
