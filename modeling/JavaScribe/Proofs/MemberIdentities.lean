import JavaScribe.Proofs.DeclaredMember
import JavaScribe.Proofs.ReachableSession
import Mathlib.Data.List.Nodup

/-!
# Identities of members

A type keeps the identities of its members, and they tell its history: they are, in order, what the
edits declared that were accepted on the type (`Session.recorded_performAll`).  So a declaration
that passes all other checks is refused as a duplicate just when an earlier one of the same identity
was accepted on the same type, and otherwise adds its member and nothing else
(`Session.duplicate_iff_declared`).

An edit works on the type at one path, and the history of every other type has to be seen to stay as
it is.  Types at other paths keep their identities; one new type may appear, which has none as yet
(`TypeDecl.Undisturbed`).
-/

set_option autoImplicit false

namespace JavaScribe

namespace TypeDecl

/-- The identities of the type that a path leads to. -/
def identitiesAt? (t : TypeDecl) (path : List String) : Option (List Identity) :=
  (t.find? path).map TypeDecl.identities

/-- A longer path leads through the nested type of its first name. -/
theorem identitiesAt?_cons (t : TypeDecl) (name : String) (path : List String) :
    t.identitiesAt? (name :: path) = (t.nested? name).bind fun v => v.identitiesAt? path := by
  simp only [identitiesAt?, find?]
  cases t.nested? name <;> rfl

/-- Whether a type keeps its identities, or is a new one that has none. -/
def Undisturbed (before after : Option (List Identity)) : Prop :=
  after = before ∨ before = none ∧ after = some []

/-- A type that was just declared has no identities, and no types inside it. -/
theorem identitiesAt?_of_declare {s : TypeSpec} {site : Site} {p : Place} {e : Effect}
    (h : s.declare site p = .ok e) (path : List String) :
    e.type.identitiesAt? path = if path = [] then some [] else none := by
  obtain ⟨-, -, -, category, accepted, -, -, rfl⟩ := TypeSpec.declare_eq_ok_iff.mp h
  cases path with
  | nil => rfl
  | cons name path =>
    rw [identitiesAt?_cons]
    rfl

/-- An edit of a type disturbs no type inside it. -/
theorem undisturbed_of_edit {t : TypeDecl} {p : Place} {ed : Edit} {e : Effect}
    (he : t.edit p ed = .ok e) {path : List String} (hpath : path ≠ []) :
    Undisturbed (t.identitiesAt? path) (e.type.identitiesAt? path) := by
  obtain ⟨added, hmembers, hadded, -⟩ := exists_added_of_edit he
  obtain ⟨name, path, rfl⟩ := List.exists_cons_of_ne_nil hpath
  have hnested : e.type.nested? name =
      (t.nested? name).or (added.findSome? (Member.nested? name)) := by
    rw [nested?, hmembers, List.findSome?_append]
    rfl
  rw [identitiesAt?_cons, identitiesAt?_cons, hnested]
  cases hold : t.nested? name with
  | some v => exact .inl rfl
  | none =>
    cases hnew : added.findSome? (Member.nested? name) with
    | none => exact .inl rfl
    | some v =>
      -- the type of this name is the one that was just declared
      obtain ⟨m, hm, hv⟩ := List.exists_of_findSome?_eq_some hnew
      obtain ⟨rfl, -⟩ := Member.nested?_eq_some_iff.mp hv
      obtain ⟨s, site, q, declared, hdeclare, rfl⟩ := (hadded _ hm).nested v rfl
      show Undisturbed none (declared.type.identitiesAt? path)
      rw [identitiesAt?_of_declare hdeclare]
      split
      · exact .inr ⟨rfl, rfl⟩
      · exact .inl rfl

/-- A nested type that is found by its name is a member of this name. -/
theorem mem_members_of_nested? {t v : TypeDecl} {name : String} (hv : t.nested? name = some v) :
    v.toMember ∈ t.members ∧ v.header.name = name := by
  obtain ⟨m, hm, hmv⟩ := List.exists_of_findSome?_eq_some hv
  obtain ⟨rfl, hname⟩ := Member.nested?_eq_some_iff.mp hmv
  exact ⟨hm, hname⟩

/-- In a coherent type all nested types are coherent. -/
theorem Coherent.nested {t v : TypeDecl} {name : String} (ht : t.Coherent)
    (hv : t.nested? name = some v) : v.Coherent :=
  everywhere_toMember.mp (ht.2 _ (mem_members_of_nested? hv).1)

/-- If identities are kept, a nested type is found by its name. -/
theorem KeepsIdentities.nested?_of_mem {t v : TypeDecl} (ht : t.KeepsIdentities)
    (hv : v.toMember ∈ t.members) : t.nested? v.header.name = some v := by
  have hself : v.toMember.nested? v.header.name = some v :=
    Member.nested?_eq_some_iff.mpr ⟨rfl, rfl⟩
  have hsome : (t.nested? v.header.name).isSome = true := by
    rw [nested?, List.findSome?_isSome_iff]
    exact ⟨v.toMember, hv, by rw [hself]; rfl⟩
  obtain ⟨w, hw⟩ := Option.isSome_iff_exists.mp hsome
  obtain ⟨hm, hname⟩ := mem_members_of_nested? hw
  have hidentity : w.toMember.identity = v.toMember.identity := by
    simp only [Member.identity, toMember, hname]
  have hnodup : (t.members.map Member.identity).Nodup := ht.1 ▸ ht.2
  rw [hw, toMember_inj.mp (List.inj_on_of_nodup_map hnodup hm hv hidentity)]

/-- When the type at a path is replaced by one that is declared like it, the types nested in the
tree are as before, but for the first one on the path, in which the replacement goes on. -/
theorem Coherent.nested?_update {t u u' v : TypeDecl} {name : String} {path : List String}
    (ht : t.Coherent) (hv : t.nested? name = some v) (hu : v.find? path = some u)
    (hdeclared : u'.header.declared = u.header.declared) (other : String) :
    (t.update (fun _ => u') (name :: path)).nested? other =
      if other = name then some (v.update (fun _ => u') path) else t.nested? other := by
  obtain ⟨before, after, hsplit, hupdate⟩ := ht.1.nested_split hv
  obtain ⟨-, rfl⟩ := mem_members_of_nested? hv
  have hsame := ((ht.nested hv).replaced u' hu).declared_eq hdeclared
  have hname := TypeHeader.name_eq_of_declared_eq hsame
  have hmembers := hupdate (update (fun _ => u') path)
  split
  · next h =>
    have hkeeps : (t.update (fun _ => u') (v.header.name :: path)).KeepsIdentities := by
      have hbefore : KeepsIdentities ⟨t.header, t.identities, before ++ v.toMember :: after⟩ :=
        hsplit ▸ ht.1
      rw [update, hmembers]
      exact hbefore.of_nested_declared_eq hsame
    have hmem : (v.update (fun _ => u') path).toMember ∈
        (t.update (fun _ => u') (v.header.name :: path)).members := by
      rw [update, hmembers]
      exact List.mem_append_right _ List.mem_cons_self
    rw [h, ← hname]
    exact hname ▸ hkeeps.nested?_of_mem hmem
  · next h =>
    -- neither the old type nor the new one has the other name, so both are passed over
    have hskip : ∀ w : TypeDecl, w.header.name = v.header.name →
        w.toMember.nested? other = none := by
      intro w hw
      have hne : w.header.name ≠ other := fun h' => h (h'.symm.trans hw)
      simp only [toMember, Member.nested?, hne, if_false]
    rw [update, nested?, nested?, hmembers, hsplit]
    simp only [List.findSome?_append, List.findSome?_cons, hskip v rfl, hskip _ hname]

/-- In a coherent type, a type that was put at a path is found there. -/
theorem Coherent.find?_update {t u u' : TypeDecl} {path : List String} (ht : t.Coherent)
    (hu : t.find? path = some u) (hdeclared : u'.header.declared = u.header.declared) :
    (t.update (fun _ => u') path).find? path = some u' := by
  induction path generalizing t with
  | nil => rfl
  | cons name path ih =>
    simp only [TypeDecl.find?] at hu ⊢
    cases hv : t.nested? name with
    | none => simp [hv] at hu
    | some v =>
      simp only [hv] at hu
      rw [ht.nested?_update hv hu hdeclared, if_pos rfl]
      exact ih (ht.nested hv) hu

/-- An edit of the type at one path leaves the identities of all other types alone. -/
theorem Coherent.undisturbed_update {t u : TypeDecl} {p : Place} {ed : Edit} {e : Effect}
    {edited path : List String} (ht : t.Coherent) (hu : t.find? edited = some u)
    (he : u.edit p ed = .ok e) (hpath : path ≠ edited) :
    Undisturbed (t.identitiesAt? path)
      ((t.update (fun _ => e.type) edited).identitiesAt? path) := by
  induction edited generalizing t path with
  | nil =>
    obtain rfl : t = u := Option.some.inj hu
    exact undisturbed_of_edit he hpath
  | cons name edited ih =>
    simp only [TypeDecl.find?] at hu
    cases hv : t.nested? name with
    | none => simp [hv] at hu
    | some v =>
      simp only [hv] at hu
      cases path with
      | nil => exact .inl rfl
      | cons other path =>
        rw [identitiesAt?_cons, identitiesAt?_cons,
          ht.nested?_update hv hu (edit_declared_eq he)]
        split
        · next h =>
          subst h
          rw [hv]
          exact ih (ht.nested hv) hu fun h => hpath (h ▸ rfl)
        · exact .inl rfl

end TypeDecl

/-- An address is told by its unit and its path. -/
theorem Address.eq_of_unit_eq {a b : Address} (hunit : a.unit = b.unit) (hpath : a.path = b.path) :
    a = b := by
  cases a
  cases b
  simp_all

namespace Session

/-- The edit of the type at an address that an action is, if it is one that is accepted. -/
def acceptedEditAt (a : Address) (s : Session) : Action → List Edit
  | .openUnit .. => []
  | .edit address ed =>
    match (s.perform (.edit address ed)).outcome with
    | .ok () => if address = a then [ed] else []
    | .error _ => []

/-- The edits of the type at an address that are accepted when actions are performed in turn. -/
def acceptedEditsAt (a : Address) : Session → List Action → List Edit
  | _, [] => []
  | s, x :: xs => s.acceptedEditAt a x ++ acceptedEditsAt a (s.perform x).session xs

/-- The edits accepted on a type are those of the actions before and of the last one. -/
theorem acceptedEditsAt_concat (a : Address) (s : Session) (xs : List Action) (x : Action) :
    acceptedEditsAt a s (xs ++ [x]) =
      acceptedEditsAt a s xs ++ (s.performAll xs).acceptedEditAt a x := by
  induction xs generalizing s with
  | nil => simp only [List.nil_append, acceptedEditsAt, List.append_nil]; rfl
  | cons y xs ih =>
    simp only [List.cons_append, acceptedEditsAt, ih, List.append_assoc]
    rfl

/-- The identities of the type at an address. -/
def identitiesAt? (s : Session) (a : Address) : Option (List Identity) :=
  (s.units[a.unit]?).bind fun u => u.root.identitiesAt? a.path

/-- The identities at an address are those of the type there. -/
theorem identitiesAt?_of_find? {s : Session} {a : Address} {u : CompilationUnit} {t : TypeDecl}
    (hfind : s.find? a = some (u, t)) : s.identitiesAt? a = some t.identities := by
  obtain ⟨hunit, hpath⟩ := find?_eq_some_iff.mp hfind
  rw [identitiesAt?, hunit]
  show (u.root.find? a.path).map TypeDecl.identities = _
  rw [show u.root.find? a.path = some t from hpath]
  rfl

/-- Whether identities of a type, if there is one, record what the edits declare. -/
def Records (identities : Option (List Identity)) (edits : List Edit) : Prop :=
  match identities with
  | some is => is = edits.filterMap Edit.identity?
  | none => edits = []

/-- A record of edits stays right for a type that is not disturbed. -/
theorem Records.of_undisturbed {before after : Option (List Identity)} {edits : List Edit}
    (h : Records before edits) (hafter : TypeDecl.Undisturbed before after) :
    Records after edits := by
  rcases hafter with rfl | ⟨rfl, rfl⟩
  · exact h
  · obtain rfl : edits = [] := h
    rfl

/-- A unit that is opened comes after all others, and its type has no identities yet. -/
theorem undisturbed_of_openUnit {s : Session} {package : String} {spec : TypeSpec}
    {v : CompilationUnit} {log : Log} (h : CompilationUnit.declare package spec = .ok (v, log))
    (a : Address) :
    TypeDecl.Undisturbed (s.identitiesAt? a) (identitiesAt? ⟨s.units ++ [v]⟩ a) := by
  unfold identitiesAt?
  by_cases hlt : a.unit < s.units.length
  · rw [List.getElem?_append_left hlt]
    exact .inl rfl
  · have hle := Nat.le_of_not_lt hlt
    rw [List.getElem?_append_right hle, List.getElem?_eq_none hle]
    cases a.unit - s.units.length with
    | zero =>
      obtain ⟨e, he, rfl, -⟩ := CompilationUnit.declare_eq_ok_iff.mp h
      show TypeDecl.Undisturbed none (e.type.identitiesAt? a.path)
      rw [TypeDecl.identitiesAt?_of_declare he]
      split
      · exact .inr ⟨rfl, rfl⟩
      · exact .inl rfl
    | succ k => exact .inl rfl

section Edit

variable {s : Session} {address : Address} {u : CompilationUnit} {t : TypeDecl} {ed : Edit}
  {e : Effect}

/-- After an accepted edit, the edited type is found at its address. -/
theorem find?_of_edit (hu : u.root.Coherent) (hfind : s.find? address = some (u, t))
    (he : t.edit (u.place address.path) ed = .ok e) :
    find? ⟨s.units.set address.unit (u.apply address.path e)⟩ address =
      some (u.apply address.path e, e.type) := by
  obtain ⟨hunit, hpath⟩ := find?_eq_some_iff.mp hfind
  obtain ⟨hlt, -⟩ := List.getElem?_eq_some_iff.mp hunit
  rw [find?_eq_some_iff]
  constructor
  · exact List.getElem?_set_self hlt
  · exact hu.find?_update hpath (TypeDecl.edit_declared_eq he)

/-- After an accepted edit, the type at its address has one identity more if the edit declares a
member. -/
theorem identitiesAt?_of_edit (hu : u.root.Coherent) (hfind : s.find? address = some (u, t))
    (he : t.edit (u.place address.path) ed = .ok e) :
    identitiesAt? ⟨s.units.set address.unit (u.apply address.path e)⟩ address =
      some (t.identities ++ ed.identity?.toList) := by
  obtain ⟨-, -, -, hidentities⟩ := TypeDecl.exists_added_of_edit he
  rw [identitiesAt?_of_find? (find?_of_edit hu hfind he), hidentities]

/-- An accepted edit disturbs no type at any other address. -/
theorem undisturbed_of_edit_ne (hu : u.root.Coherent) (hfind : s.find? address = some (u, t))
    (he : t.edit (u.place address.path) ed = .ok e) {a : Address} (ha : a ≠ address) :
    TypeDecl.Undisturbed (s.identitiesAt? a)
      (identitiesAt? ⟨s.units.set address.unit (u.apply address.path e)⟩ a) := by
  obtain ⟨hunit, hpath⟩ := find?_eq_some_iff.mp hfind
  obtain ⟨hlt, -⟩ := List.getElem?_eq_some_iff.mp hunit
  unfold identitiesAt?
  by_cases hsame : address.unit = a.unit
  · have hne : a.path ≠ address.path := fun hpath => ha (Address.eq_of_unit_eq hsame.symm hpath)
    rw [← hsame, hunit, List.getElem?_set_self hlt]
    exact hu.undisturbed_update hpath he hne
  · rw [List.getElem?_set_ne hsame]
    exact .inl rfl

end Edit

/-- One action keeps the record of each type: the edit is recorded for the type that it is of. -/
theorem Records.perform {s : Session} (hs : ∀ u ∈ s.units, u.root.Coherent) {a : Address}
    {edits : List Edit} (h : Records (s.identitiesAt? a) edits) (x : Action) :
    Records ((s.perform x).session.identitiesAt? a) (edits ++ s.acceptedEditAt a x) := by
  cases x with
  | openUnit package spec =>
    rw [acceptedEditAt, List.append_nil, perform_eq_judged hs]
    simp only [act]
    cases hdeclare : CompilationUnit.declare package spec with
    | error e => exact h
    | ok r => exact h.of_undisturbed (undisturbed_of_openUnit hdeclare a)
  | edit address ed =>
    rw [acceptedEditAt, perform_eq_judged hs]
    simp only [act]
    cases hunit : s.units[address.unit]? with
    | none => simpa only [judged, List.append_nil] using h
    | some u =>
      have hu := hs u (List.mem_of_getElem? hunit)
      cases hedit : u.edit address.path ed with
      | error e => simpa only [judged, bind, Except.bind, hedit, List.append_nil] using h
      | ok r =>
        obtain ⟨v, log⟩ := r
        obtain ⟨t, e, hpath, he, rfl, -⟩ := CompilationUnit.edit_eq_ok_iff.mp hedit
        have hfind := find?_eq_some_iff.mpr ⟨hunit, hpath⟩
        simp only [judged, bind, Except.bind, hedit, pure, Except.pure]
        by_cases haddress : address = a
        · subst haddress
          have hrecorded : t.identities = edits.filterMap Edit.identity? := by
            rwa [identitiesAt?_of_find? hfind] at h
          rw [identitiesAt?_of_edit hu hfind he, if_pos rfl]
          show t.identities ++ ed.identity?.toList = _
          rw [List.filterMap_append, hrecorded]
          cases hidentity : ed.identity? <;> simp [hidentity]
        · rw [if_neg haddress, List.append_nil]
          exact h.of_undisturbed (undisturbed_of_edit_ne hu hfind he (Ne.symm haddress))

/-- What performing an edit of a type that is reached comes to is what the edit does to the type. -/
theorem perform_edit_of_find? {actions : List Action} {a : Address} {u : CompilationUnit}
    {t : TypeDecl} (hfind : (empty.performAll actions).find? a = some (u, t)) (ed : Edit) :
    (empty.performAll actions).perform (.edit a ed) =
      (empty.performAll actions).judged (do
        let e ← t.edit (u.place a.path) ed
        return (⟨(empty.performAll actions).units.set a.unit (u.apply a.path e)⟩, e.log)) := by
  obtain ⟨hunit, hpath⟩ := find?_eq_some_iff.mp hfind
  rw [perform_eq_judged fun v hv => coherent_of_mem_units hv]
  simp only [act, hunit, CompilationUnit.edit, hpath]
  cases t.edit (u.place a.path) ed <;> rfl

end Session

end JavaScribe
