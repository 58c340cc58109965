import JavaScribe.Proofs.ImportSets
import JavaScribe.Proofs.MemberIdentities
import JavaScribe.Source.Generator

/-!
# Isolation of trees

A call reaches no further than the tree of the type that it is made on.  So calls on several trees
may come in any order, as long as those on one tree stay in theirs: each tree becomes what it would
become from its own calls (`Session.units_performAll_filter`).  A call may speak of a type of
another tree, but all that it takes along is the place of this type, and places never change.

Within a tree a call changes the type that it is made on and what the file shares.  What a type has
by itself is told by `TypeDecl.own`, which counts a nested type as a member but leaves out what is
inside it; for otherwise every type would change with the types nested in it.  All other types keep
what they have by themselves, and one may be new (`Session.ChangesOnly`).
-/

set_option autoImplicit false

namespace JavaScribe

/-- A member as the type around it has it: of a nested type only what its declaration said. -/
def Member.listed : Member → Member
  | .field f => .field f
  | .executable e => .executable e
  | .type header _ _ => .type header.declared [] []

namespace TypeDecl

/-- What a type has by itself. -/
def own (t : TypeDecl) : TypeDecl := { t with members := t.members.map Member.listed }

/-- What the type that a path leads to has by itself. -/
def ownAt? (t : TypeDecl) (path : List String) : Option TypeDecl := (t.find? path).map own

/-- A longer path leads through the nested type of its first name. -/
theorem ownAt?_cons (t : TypeDecl) (name : String) (path : List String) :
    t.ownAt? (name :: path) = (t.nested? name).bind fun v => v.ownAt? path := by
  unfold ownAt?
  rw [find?]
  cases t.nested? name <;> rfl

/-- A type that was just declared has nothing by itself, and no types are nested in it. -/
theorem ownAt?_of_declare {s : TypeSpec} {site : Site} {p : Place} {e : Effect}
    (h : s.declare site p = .ok e) (path : List String) :
    e.type.ownAt? path = if path = [] then some ⟨e.type.header, [], []⟩ else none := by
  obtain ⟨-, -, -, category, accepted, -, -, rfl⟩ := TypeSpec.declare_eq_ok_iff.mp h
  cases path with
  | nil => rfl
  | cons name path =>
    rw [ownAt?_cons]
    rfl

/-- The types nested in a type after an edit of it are those from before and the one that the edit
declares, which has no members yet. -/
theorem nested?_of_edit {t : TypeDecl} {p : Place} {ed : Edit} {e : Effect}
    (ht : t.KeepsIdentities) (he : t.edit p ed = .ok e) (name : String) :
    e.type.nested? name = t.nested? name ∨
      t.nested? name = none ∧ ∃ spec v, ed = .nestedType spec ∧ spec.name = name ∧
        e.type.nested? name = some v ∧
        ∀ path, v.ownAt? path = if path = [] then some ⟨v.header, [], []⟩ else none := by
  obtain ⟨added, hmembers, hadded, hrecorded⟩ := exists_added_of_edit he
  have hnested : e.type.nested? name =
      (t.nested? name).or (added.findSome? (Member.nested? name)) := by
    rw [nested?, hmembers, List.findSome?_append]
    rfl
  have hidentities : added.map Member.identity = ed.identity?.toList := by
    have hkeeps := (invariant_keepsIdentities.edit he ht).1
    rw [hmembers, List.map_append, ← ht.1, hrecorded] at hkeeps
    exact (List.append_cancel_left hkeeps).symm
  cases hold : t.nested? name with
  | some v =>
    left
    rw [hnested, hold, Option.some_or]
  | none =>
    cases hnew : added.findSome? (Member.nested? name) with
    | none =>
      left
      rw [hnested, hold, hnew, Option.none_or]
    | some v =>
      obtain ⟨m, hm, hv⟩ := List.exists_of_findSome?_eq_some hnew
      obtain ⟨rfl, hname⟩ := Member.nested?_eq_some_iff.mp hv
      obtain ⟨s, site, q, declared, hdeclare, rfl⟩ := (hadded _ hm).nested v rfl
      -- the new member has the identity of the edit, so the edit declares a type of its name
      have hidentity : Identity.type name ∈ ed.identity?.toList := by
        rw [← hidentities, ← hname]
        exact List.mem_map_of_mem hm
      have hed : ∃ spec, ed = .nestedType spec ∧ spec.name = name := by
        cases ed with
        | nestedType spec =>
          have heq : Identity.type name = .type spec.name := by
            simpa [Edit.identity?] using hidentity
          exact ⟨spec, rfl, (Identity.type.inj heq).symm⟩
        | _ => simp [Edit.identity?] at hidentity
      obtain ⟨spec, rfl, hspec⟩ := hed
      refine .inr ⟨rfl, spec, declared.type, rfl, hspec, ?_, ownAt?_of_declare hdeclare⟩
      rw [hnested, hold, hnew, Option.none_or]

/-- What becomes of what the type at a path has by itself when an edit is made on the type at
another path: it stays, or the type is the one that the edit declares. -/
def KeptOrDeclared (ed : Edit) (edited path : List String) (before after : Option TypeDecl) :
    Prop :=
  after = before ∨
    before = none ∧ ∃ spec header, ed = .nestedType spec ∧ path = edited ++ [spec.name] ∧
      after = some ⟨header, [], []⟩

/-- What is kept or declared inside a nested type is so when it is seen from the type around it. -/
theorem KeptOrDeclared.inside {ed : Edit} {edited path : List String}
    {before after : Option TypeDecl} (h : KeptOrDeclared ed edited path before after)
    (name : String) : KeptOrDeclared ed (name :: edited) (name :: path) before after := by
  rcases h with h | ⟨hbefore, spec, header, hed, rfl, hafter⟩
  · exact .inl h
  · exact .inr ⟨hbefore, spec, header, hed, rfl, hafter⟩

/-- An accepted edit keeps or declares every type inside the one that it is an edit of. -/
theorem keptOrDeclared_of_edit {t : TypeDecl} {p : Place} {ed : Edit} {e : Effect}
    (ht : t.KeepsIdentities) (he : t.edit p ed = .ok e) {path : List String} (hpath : path ≠ []) :
    KeptOrDeclared ed [] path (t.ownAt? path) (e.type.ownAt? path) := by
  obtain ⟨name, path, rfl⟩ := List.exists_cons_of_ne_nil hpath
  rw [ownAt?_cons, ownAt?_cons]
  rcases nested?_of_edit ht he name with hkept | ⟨hnone, spec, v, rfl, rfl, hnew, hv⟩
  · rw [hkept]
    exact .inl rfl
  · rw [hnone, hnew, Option.bind_none, Option.bind_some, hv]
    split
    · next h =>
      subst h
      exact .inr ⟨rfl, spec, v.header, rfl, rfl, rfl⟩
    · exact .inl rfl

/-- A type around the one that is replaced keeps what it has by itself. -/
theorem Coherent.own_update {t u u' v : TypeDecl} {name : String} {path : List String}
    (ht : t.Coherent) (hv : t.nested? name = some v) (hu : v.find? path = some u)
    (hdeclared : u'.header.declared = u.header.declared) :
    (t.update (fun _ => u') (name :: path)).own = t.own := by
  obtain ⟨before, after, hsplit, hupdate⟩ := ht.1.nested_split hv
  have hsame := ((ht.nested hv).replaced u' hu).declared_eq hdeclared
  have hlisted : (v.update (fun _ => u') path).toMember.listed = v.toMember.listed := by
    simp only [toMember, Member.listed, hsame]
  simp only [own, update, hupdate]
  simp only [hsplit, List.map_append, List.map_cons, hlisted]

/-- An edit of the type at one path leaves all other types what they have by themselves. -/
theorem Coherent.keptOrDeclared_update {t u : TypeDecl} {p : Place} {ed : Edit} {e : Effect}
    {edited path : List String} (ht : t.Coherent) (hu : t.find? edited = some u)
    (he : u.edit p ed = .ok e) (hpath : path ≠ edited) :
    KeptOrDeclared ed edited path (t.ownAt? path)
      ((t.update (fun _ => e.type) edited).ownAt? path) := by
  induction edited generalizing t path with
  | nil =>
    obtain rfl : t = u := Option.some.inj hu
    exact keptOrDeclared_of_edit ht.1 he hpath
  | cons name edited ih =>
    simp only [TypeDecl.find?] at hu
    cases hv : t.nested? name with
    | none => simp [hv] at hu
    | some v =>
      simp only [hv] at hu
      cases path with
      | nil =>
        have hown := ht.own_update hv hu (edit_declared_eq he)
        exact .inl (congrArg some hown)
      | cons other path =>
        rw [ownAt?_cons, ownAt?_cons, ht.nested?_update hv hu (edit_declared_eq he)]
        split
        · next h =>
          subst h
          rw [hv]
          exact (ih (ht.nested hv) hu fun h => hpath (h ▸ rfl)).inside other
        · exact .inl rfl

end TypeDecl

/-- The places of all types of a unit are told by that of its top-level type. -/
theorem CompilationUnit.place_eq_of_root {u v : CompilationUnit} (h : u.place [] = v.place [])
    (path : List String) : u.place path = v.place path := by
  simp only [place, Place.mk.injEq, List.cons.injEq, and_true] at h ⊢
  exact h

/-! ## One call -/

namespace Session

/-- Whether a call on the type at an address changes nothing but what it may change: what this type
has by itself, and the imports and warnings of its file. -/
structure ChangesOnly (a : Address) (ed : Edit) (s s' : Session) : Prop where
  /-- No unit comes or goes. -/
  count : s'.units.length = s.units.length
  /-- All other units stay as they are. -/
  units : ∀ k, k ≠ a.unit → s'.units[k]? = s.units[k]?
  /-- The unit keeps its package and the name of its top-level type. -/
  place : (s'.units[a.unit]?).map (CompilationUnit.place · []) =
    (s.units[a.unit]?).map (CompilationUnit.place · [])
  /-- The type stays as it was declared, but for annotations, interfaces and type parameters, and
  loses no member or identity. -/
  type : ∀ u t, s.find? a = some (u, t) → ∃ u' t', s'.find? a = some (u', t') ∧
    t'.header.declared = t.header.declared ∧ t.members <+: t'.members ∧
    t.identities <+: t'.identities
  /-- Each other type keeps what it has by itself, and only what the call declares is new. -/
  others : ∀ path, path ≠ a.path → TypeDecl.KeptOrDeclared ed a.path path
    ((s.units[a.unit]?).bind fun u => u.root.ownAt? path)
    ((s'.units[a.unit]?).bind fun u => u.root.ownAt? path)

/-- A session that stays as it is has changed at most where it may. -/
theorem ChangesOnly.refl (a : Address) (ed : Edit) (s : Session) : s.ChangesOnly a ed s where
  count := rfl
  units _ _ := rfl
  place := rfl
  type u t h := ⟨u, t, h, rfl, List.prefix_rfl, List.prefix_rfl⟩
  others _ _ := .inl rfl

/-- An accepted edit changes at most its own type and what is shared in its unit. -/
theorem changesOnly_of_edit {s : Session} {a : Address} {u : CompilationUnit} {t : TypeDecl}
    {ed : Edit} {e : Effect} (hu : u.root.Coherent) (hfind : s.find? a = some (u, t))
    (he : t.edit (u.place a.path) ed = .ok e) :
    s.ChangesOnly a ed ⟨s.units.set a.unit (u.apply a.path e)⟩ := by
  obtain ⟨hunit, hpath⟩ := find?_eq_some_iff.mp hfind
  obtain ⟨hlt, -⟩ := List.getElem?_eq_some_iff.mp hunit
  have hset : (s.units.set a.unit (u.apply a.path e))[a.unit]? = some (u.apply a.path e) :=
    List.getElem?_set_self hlt
  obtain ⟨added, hmembers, -, hidentities⟩ := TypeDecl.exists_added_of_edit he
  constructor
  case count => exact List.length_set
  case units =>
    intro k hk
    exact List.getElem?_set_ne hk.symm
  case place =>
    have hroot := (hu.replaced e.type hpath).declared_eq (TypeDecl.edit_declared_eq he)
    have hname := TypeHeader.name_eq_of_declared_eq hroot
    have hpackage := ImportSet.package_addAll u.imports e.imports
    rw [hset, hunit]
    simp only [Option.map_some, CompilationUnit.place, CompilationUnit.package,
      CompilationUnit.apply, hname, hpackage]
  case type =>
    intro v w hvw
    obtain ⟨rfl, rfl⟩ : u = v ∧ t = w := by simpa [hfind] using hvw
    refine ⟨_, _, find?_of_edit hu hfind he, TypeDecl.edit_declared_eq he, ?_, ?_⟩
    · rw [hmembers]
      exact List.prefix_append _ _
    · rw [hidentities]
      exact List.prefix_append _ _
  case others =>
    intro path hne
    rw [hset, hunit]
    exact hu.keptOrDeclared_update hpath he hne

/-- A call changes only what it may change, whether or not it is refused. -/
theorem changesOnly_perform {s : Session} (hs : ∀ u ∈ s.units, u.root.Coherent) (a : Address)
    (ed : Edit) : s.ChangesOnly a ed (s.perform (.edit a ed)).session := by
  rw [perform_eq_judged hs]
  simp only [act]
  cases hunit : s.units[a.unit]? with
  | none => exact .refl a ed s
  | some u =>
    cases hedit : u.edit a.path ed with
    | error e =>
      simp only [judged, bind, Except.bind, hedit]
      exact .refl a ed s
    | ok r =>
      obtain ⟨v, log⟩ := r
      obtain ⟨t, e, hpath, he, rfl, -⟩ := CompilationUnit.edit_eq_ok_iff.mp hedit
      have hu := hs u (List.mem_of_getElem? hunit)
      simp only [judged, bind, Except.bind, hedit, pure, Except.pure]
      exact changesOnly_of_edit hu (find?_eq_some_iff.mpr ⟨hunit, hpath⟩) he

/-! ## Calls on several trees -/

end Session

/-- Whether an action is a call on a type of the unit of a number. -/
def Action.isOn (k : Nat) : Action → Bool
  | .openUnit .. => false
  | .edit a _ => a.unit == k

namespace Session

/-- Performing an action keeps the units that there are in their places. -/
theorem length_le_perform (s : Session) (x : Action) :
    s.units.length ≤ (s.perform x).session.units.length := by
  cases x with
  | openUnit package spec =>
    rw [perform, performOpen]
    split
    · simp only [List.length_append]
      omega
    · exact Nat.le_refl _
  | edit a ed =>
    rw [perform, performEdit]
    split
    · exact Nat.le_refl _
    · split <;> exact Nat.le_of_eq List.length_set.symm

/-- An action that is no call on a unit leaves it as it is. -/
theorem getElem?_perform_of_not_isOn {s : Session} {x : Action} {k : Nat}
    (hk : k < s.units.length) (hx : x.isOn k = false) :
    (s.perform x).session.units[k]? = s.units[k]? := by
  cases x with
  | openUnit package spec =>
    rw [perform, performOpen]
    split
    · exact List.getElem?_append_left hk
    · rfl
  | edit a ed =>
    have hne : a.unit ≠ k := by simpa [Action.isOn] using hx
    rw [perform, performEdit]
    split
    · rfl
    · split <;> exact List.getElem?_set_ne hne

/-- What a call makes of its unit depends on nothing but the unit. -/
theorem getElem?_perform_congr {s s' : Session} {a : Address} (ed : Edit)
    (h : s.units[a.unit]? = s'.units[a.unit]?) :
    (s.perform (.edit a ed)).session.units[a.unit]? =
      (s'.perform (.edit a ed)).session.units[a.unit]? := by
  have hfind : s.find? a = s'.find? a := by rw [find?, find?, h]
  simp only [perform, performEdit, hfind]
  cases hfound : s'.find? a with
  | none => exact h
  | some r =>
    obtain ⟨hunit', -⟩ := find?_eq_some_iff.mp hfound
    obtain ⟨hunit, -⟩ := find?_eq_some_iff.mp (hfind.trans hfound)
    obtain ⟨hlt', -⟩ := List.getElem?_eq_some_iff.mp hunit'
    obtain ⟨hlt, -⟩ := List.getElem?_eq_some_iff.mp hunit
    dsimp only
    split <;> rw [List.getElem?_set_self hlt, List.getElem?_set_self hlt']

/-- What becomes of a unit depends on the unit and on the calls on it. -/
theorem units_performAll_filter {s s' : Session} {k : Nat} (hk : k < s.units.length)
    (h : s.units[k]? = s'.units[k]?) (calls : List Action) :
    (s.performAll calls).units[k]? = (s'.performAll (calls.filter (·.isOn k))).units[k]? := by
  induction calls generalizing s s' with
  | nil => exact h
  | cons x xs ih =>
    have hlength := Nat.lt_of_lt_of_le hk (s.length_le_perform x)
    cases hx : x.isOn k with
    | false =>
      rw [List.filter_cons_of_neg (by simp [hx])]
      exact ih hlength ((getElem?_perform_of_not_isOn hk hx).trans h)
    | true =>
      rw [List.filter_cons_of_pos hx]
      cases x with
      | openUnit package spec => cases hx
      | edit a ed =>
        obtain rfl : a.unit = k := by simpa [Action.isOn] using hx
        exact ih hlength (getElem?_perform_congr ed h)

/-! ## Places -/

/-- A call on any type leaves every type at its place. -/
theorem find?_perform {s : Session} (hs : ∀ u ∈ s.units, u.root.Coherent) (x : Action)
    {a : Address} {u : CompilationUnit} {t : TypeDecl} (hfind : s.find? a = some (u, t)) :
    ∃ u' t', (s.perform x).session.find? a = some (u', t') ∧
      u'.place a.path = u.place a.path := by
  obtain ⟨hunit, hpath⟩ := find?_eq_some_iff.mp hfind
  obtain ⟨hlt, -⟩ := List.getElem?_eq_some_iff.mp hunit
  cases hx : x.isOn a.unit with
  | false =>
    refine ⟨u, t, find?_eq_some_iff.mpr ⟨?_, hpath⟩, rfl⟩
    rw [getElem?_perform_of_not_isOn hlt hx, hunit]
  | true =>
    cases x with
    | openUnit package spec => cases hx
    | edit b ed =>
      have hb : b.unit = a.unit := by simpa [Action.isOn] using hx
      have hchanges := changesOnly_perform hs b ed
      obtain ⟨u', hunit'⟩ : ∃ u', (s.perform (.edit b ed)).session.units[a.unit]? = some u' := by
        rw [← hchanges.count] at hlt
        exact ⟨_, List.getElem?_eq_getElem hlt⟩
      have hplace : u'.place [] = u.place [] := by
        have h := hchanges.place
        rw [hb, hunit', hunit] at h
        exact Option.some.inj h
      have hplaces := CompilationUnit.place_eq_of_root hplace a.path
      -- the edited type itself is another one now, but it is found at the same address
      by_cases hsame : a.path = b.path
      · obtain rfl : a = b := Address.eq_of_unit_eq hb.symm hsame
        obtain ⟨v, w, hvw, -⟩ := hchanges.type u t hfind
        obtain ⟨hv, -⟩ := find?_eq_some_iff.mp hvw
        obtain rfl : v = u' := Option.some.inj (hv.symm.trans hunit')
        exact ⟨v, w, hvw, hplaces⟩
      · have hown := hchanges.others a.path hsame
        have hbefore : u.root.ownAt? a.path = some t.own := congrArg (Option.map _) hpath
        rw [hb, hunit, hunit'] at hown
        rcases hown with hkept | ⟨hnone, -⟩
        · obtain ⟨w, hw, -⟩ := Option.map_eq_some_iff.mp (hkept.trans hbefore)
          exact ⟨u', w, find?_eq_some_iff.mpr ⟨hunit', hw⟩, hplaces⟩
        · cases hbefore.symm.trans hnone

/-- A type that was found once is found after any further actions, at the same place. -/
theorem find?_performAll {actions : List Action} {a : Address} {u : CompilationUnit}
    {t : TypeDecl} (hfind : (empty.performAll actions).find? a = some (u, t))
    (calls : List Action) :
    ∃ u' t', ((empty.performAll actions).performAll calls).find? a = some (u', t') ∧
      u'.place a.path = u.place a.path := by
  induction calls using List.reverseRecOn with
  | nil => exact ⟨u, t, hfind, rfl⟩
  | append_singleton xs x ih =>
    obtain ⟨v, w, hvw, hplace⟩ := ih
    have hreached : (empty.performAll actions).performAll xs = empty.performAll (actions ++ xs) :=
      List.foldl_append.symm
    rw [hreached] at hvw
    obtain ⟨v', w', hfound, hplace'⟩ := find?_perform (fun r hr => coherent_of_mem_units hr) x hvw
    refine ⟨v', w', ?_, hplace'.trans hplace⟩
    rw [performAll_concat, hreached]
    exact hfound

/-- Trees are isolated from each other, and the types of a tree but for what they share.  Whatever
calls are made in a session that is reached, a unit that is there becomes what it becomes from the
calls on it alone, and so do its source files.  One call, accepted or refused, changes its own type,
what the file shares and nothing else.  A type stays at its place, so that a reference to it is the
same whenever it is taken. -/
theorem trees_isolated (actions : List Action) :
    let s := empty.performAll actions
    (∀ (calls : List Action) (k : Nat), k < s.units.length →
      let together := s.performAll calls
      let alone := s.performAll (calls.filter (·.isOn k))
      together.units[k]? = alone.units[k]? ∧
        ∀ (path : List String) (g : Generator),
          (Target.find? together ⟨k, path⟩).map g.generate =
            (Target.find? alone ⟨k, path⟩).map g.generate) ∧
      (∀ (a : Address) (ed : Edit), s.ChangesOnly a ed (s.perform (.edit a ed)).session) ∧
      ∀ (a : Address) (u : CompilationUnit) (t : TypeDecl), s.find? a = some (u, t) →
        ∀ calls : List Action, ∃ u' t', (s.performAll calls).find? a = some (u', t') ∧
          ∀ arguments, (u'.place a.path).reference arguments =
            (u.place a.path).reference arguments := by
  intro s
  refine ⟨?isolated, ?framed, ?placed⟩
  case isolated =>
    intro calls k hk together alone
    have hunit : together.units[k]? = alone.units[k]? := units_performAll_filter hk rfl calls
    refine ⟨hunit, fun path g => ?_⟩
    rw [Target.find?, Target.find?, find?, find?, hunit]
  case framed =>
    intro a ed
    exact changesOnly_perform (fun u hu => coherent_of_mem_units hu) a ed
  case placed =>
    intro a u t hfind calls
    obtain ⟨u', t', hfound, hplace⟩ := find?_performAll hfind calls
    refine ⟨u', t', hfound, fun arguments => ?_⟩
    rw [hplace]

/-- A canvas with a field of the type `Point` comes out the same whether or not members and nested
types are declared in `Point` in between. -/
theorem trees_isolated_canvas :
    let s := empty.performAll [.openUnit "shapes" { kind := .classType, name := "Point" },
      .openUnit "ui" { kind := .classType, name := "Canvas" }]
    let point : TypeExpr := Place.reference ⟨"shapes", ["Point"]⟩ []
    let origin : Action := .edit ⟨1, []⟩ (.field { type := point, name := "origin" })
    let clear : Action := .edit ⟨1, []⟩ (.method { returnType := .primitive "void", name := "clear"
                                                   body := some "" })
    let calls : List Action :=
      [.edit ⟨0, []⟩ (.nestedType { kind := .interfaceType, name := "Visitor" }), origin,
        .edit ⟨0, ["Visitor"]⟩ (.method { returnType := point, name := "visit" }),
        .edit ⟨0, []⟩ (.field { type := .primitive "int", name := "x" }), clear]
    (s.find? ⟨0, []⟩).map (fun r => (r.1.place []).reference []) = some point ∧
      1 < s.units.length ∧
      (s.performAll calls).units[1]? = (s.performAll [origin, clear]).units[1]? := by
  intro s point origin clear calls
  have hlength : 1 < s.units.length := by decide
  exact ⟨rfl, hlength, ((trees_isolated _).1 calls 1 hlength).1⟩

end Session

end JavaScribe
