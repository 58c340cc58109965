import JavaScribe.Member.Basic
import Mathlib.Data.List.Basic

/-!
# Type trees

A declared type is a tree, and an edit changes one type of it, the one that a path of names leads
to.  `TypeDecl.Everywhere` says that something holds of a type and of all types nested in it.

A path leads to one type only because nested types are told apart by their names.  This is what the
identities are for, and `TypeDecl.Coherent` says that they are kept as they should be.  In a
coherent tree the type at a path can be replaced, and all other types stay as they are:
`TypeDecl.Replaced` describes this by recursion on the way down, and whatever is to be shown of an
edited tree is shown by induction on it.
-/

set_option autoImplicit false

namespace JavaScribe

mutual
/-- Whether something holds of a nested type and of all types in it, if the member is one. -/
def Member.Everywhere (P : TypeDecl → Prop) : Member → Prop
  | .field _ => True
  | .executable _ => True
  | .type header identities members =>
    P ⟨header, identities, members⟩ ∧ Member.EverywhereIn P members

/-- Whether something holds of all types nested in a list of members. -/
def Member.EverywhereIn (P : TypeDecl → Prop) : List Member → Prop
  | [] => True
  | m :: ms => m.Everywhere P ∧ Member.EverywhereIn P ms
end

/-- What a declaration says of a type once and for all, which leaves out what edits change. -/
def TypeHeader.declared (h : TypeHeader) : TypeHeader :=
  { h with annotations := [], interfaces := [], typeParameters := [] }

/-- Types that are declared in the same way have the same name. -/
theorem TypeHeader.name_eq_of_declared_eq {g h : TypeHeader} (e : g.declared = h.declared) :
    g.name = h.name := by
  show g.declared.name = h.declared.name
  rw [e]

namespace Member

/-- Something holds in a list of members just if it holds in each of them. -/
theorem everywhereIn_iff (P : TypeDecl → Prop) (ms : List Member) :
    EverywhereIn P ms ↔ ∀ m ∈ ms, m.Everywhere P := by
  induction ms with
  | nil => simp [EverywhereIn]
  | cons m ms ih => simp [EverywhereIn, ih]

/-- A member is found as nested type of a name just if it is a type of this name. -/
theorem nested?_eq_some_iff {m : Member} {name : String} {v : TypeDecl} :
    m.nested? name = some v ↔ m = v.toMember ∧ v.header.name = name := by
  cases m with
  | field | executable => simp [nested?, TypeDecl.toMember]
  | type header identities members =>
    simp only [nested?, Option.ite_none_right_eq_some, Option.some.injEq]
    constructor
    · rintro ⟨hname, rfl⟩
      exact ⟨rfl, hname⟩
    · rintro ⟨hm, hname⟩
      cases hm
      exact ⟨hname, rfl⟩

/-- Only the nested type of a name is changed by its name. -/
theorem updateNested_of_nested?_eq_none {m : Member} {name : String} (f : TypeDecl → TypeDecl)
    (h : m.nested? name = none) : m.updateNested name f = m := by
  cases m with
  | field | executable => rfl
  | type header identities members =>
    have hne : header.name ≠ name := by
      intro heq
      simp [nested?, heq] at h
    simp [updateNested, hne]

end Member

namespace TypeDecl

/-- Whether something holds of a type and of all types nested in it. -/
def Everywhere (P : TypeDecl → Prop) (t : TypeDecl) : Prop :=
  P t ∧ ∀ m ∈ t.members, m.Everywhere P

/-- Something holds everywhere in a type just if it does in the member that the type is. -/
theorem everywhere_toMember {P : TypeDecl → Prop} {t : TypeDecl} :
    t.toMember.Everywhere P ↔ t.Everywhere P := by
  simp only [toMember, Member.Everywhere, Member.everywhereIn_iff, Everywhere]

/-- What holds of a type as soon as it holds of the types that are its members holds of every
type. -/
@[elab_as_elim]
theorem inductionOnNested {motive : TypeDecl → Prop}
    (step : ∀ t : TypeDecl, (∀ v : TypeDecl, v.toMember ∈ t.members → motive v) → motive t)
    (t : TypeDecl) : motive t :=
  step t fun v _ => inductionOnNested step v
termination_by sizeOf t
decreasing_by
  next hv =>
    have hlt := List.sizeOf_lt_of_mem hv
    cases t
    cases v
    simp only [toMember, Member.type.sizeOf_spec, mk.sizeOf_spec] at hlt ⊢
    omega

/-- What holds everywhere in a type holds everywhere in the types that are its members. -/
theorem Everywhere.nested {P : TypeDecl → Prop} {t v : TypeDecl} (h : t.Everywhere P)
    (hv : v.toMember ∈ t.members) : v.Everywhere P := everywhere_toMember.mp (h.2 _ hv)

/-- What holds of a type and everywhere in the types that are its members holds everywhere in it. -/
theorem Everywhere.of_nested {P : TypeDecl → Prop} {t : TypeDecl} (ht : P t)
    (h : ∀ v : TypeDecl, v.toMember ∈ t.members → v.Everywhere P) : t.Everywhere P := by
  refine ⟨ht, fun m hm => ?_⟩
  cases m with
  | field | executable => trivial
  | type header identities members => exact everywhere_toMember.mpr (h ⟨_, _, _⟩ hm)

/-- What holds everywhere and what else holds everywhere hold everywhere together. -/
theorem Everywhere.and {P Q : TypeDecl → Prop} {t : TypeDecl} (hP : t.Everywhere P)
    (hQ : t.Everywhere Q) : t.Everywhere fun u => P u ∧ Q u := by
  induction t using inductionOnNested with
  | step t ih => exact .of_nested ⟨hP.1, hQ.1⟩ fun v hv => ih v hv (hP.nested hv) (hQ.nested hv)

/-- What holds everywhere in a tree holds at every path. -/
theorem Everywhere.find? {P : TypeDecl → Prop} {t u : TypeDecl} {path : List String}
    (h : t.Everywhere P) (hu : t.find? path = some u) : u.Everywhere P := by
  induction path generalizing t with
  | nil =>
    simp only [TypeDecl.find?, Option.some.injEq] at hu
    exact hu ▸ h
  | cons name path ih =>
    simp only [TypeDecl.find?] at hu
    cases hv : t.nested? name with
    | none => simp [hv] at hu
    | some v =>
      simp only [hv] at hu
      obtain ⟨m, hm, hmv⟩ := List.exists_of_findSome?_eq_some hv
      obtain ⟨rfl, -⟩ := Member.nested?_eq_some_iff.mp hmv
      exact ih (everywhere_toMember.mp (h.2 _ hm)) hu

/-- Whether the identities that a type keeps are those of its members, and no two members have the
same. -/
def KeepsIdentities (t : TypeDecl) : Prop :=
  t.identities = t.members.map Member.identity ∧ t.identities.Nodup

/-- Whether a type and all types nested in it keep their identities. -/
def Coherent (t : TypeDecl) : Prop := t.Everywhere KeepsIdentities

/-- The nested type of a name is one of the members, and a change of it changes no other. -/
theorem KeepsIdentities.nested_split {t v : TypeDecl} {name : String} (ht : t.KeepsIdentities)
    (hv : t.nested? name = some v) :
    ∃ before after, t.members = before ++ v.toMember :: after ∧
      ∀ f : TypeDecl → TypeDecl, t.members.map (Member.updateNested name f) =
        before ++ (f v).toMember :: after := by
  obtain ⟨before, m, after, hsplit, hm, hbefore⟩ := List.findSome?_eq_some_iff.mp hv
  obtain ⟨rfl, hname⟩ := Member.nested?_eq_some_iff.mp hm
  have hafter : ∀ m ∈ after, m.nested? name = none := by
    intro m hm
    cases hw : m.nested? name with
    | none => rfl
    | some w =>
      -- a later type of this name would have the identity of `v` once more
      obtain ⟨rfl, hwname⟩ := Member.nested?_eq_some_iff.mp hw
      have hnodup := ht.1 ▸ ht.2
      rw [hsplit, List.map_append, List.map_cons, List.nodup_append] at hnodup
      refine absurd ?_ (List.nodup_cons.mp hnodup.2.1).1
      refine List.mem_map.mpr ⟨_, hm, ?_⟩
      simp only [Member.identity, toMember, hname, hwname]
  have hkept : ∀ (f : TypeDecl → TypeDecl) (ms : List Member),
      (∀ m ∈ ms, m.nested? name = none) → ms.map (Member.updateNested name f) = ms := by
    intro f ms hms
    exact (List.map_congr_left fun m hm =>
      Member.updateNested_of_nested?_eq_none f (hms m hm)).trans (List.map_id' ms)
  refine ⟨before, after, hsplit, fun f => ?_⟩
  rw [hsplit, List.map_append, List.map_cons, hkept f before hbefore, hkept f after hafter]
  simp [Member.updateNested, toMember, hname]

/-- Whether the second tree is the first one with the type `u` in it replaced by `u'`. -/
inductive Replaced (u u' : TypeDecl) : TypeDecl → TypeDecl → Prop where
  | here : Replaced u u' u u'
  | inside {header : TypeHeader} {identities : List Identity} {before after : List Member}
      {v v' : TypeDecl} : Replaced u u' v v' →
      Replaced u u' ⟨header, identities, before ++ v.toMember :: after⟩
        ⟨header, identities, before ++ v'.toMember :: after⟩

/-- In a coherent tree, a type can be put in the place of the one that a path leads to. -/
theorem Coherent.replaced {t u : TypeDecl} {path : List String} (u' : TypeDecl)
    (ht : t.Coherent) (hu : t.find? path = some u) :
    Replaced u u' t (t.update (fun _ => u') path) := by
  induction path generalizing t with
  | nil =>
    simp only [TypeDecl.find?, Option.some.injEq] at hu
    exact hu ▸ .here
  | cons name path ih =>
    simp only [TypeDecl.find?] at hu
    cases hv : t.nested? name with
    | none => simp [hv] at hu
    | some v =>
      simp only [hv] at hu
      obtain ⟨before, after, hsplit, hupdate⟩ := ht.1.nested_split hv
      -- `t` splits at `v` because it keeps its identities; `v` does too, which is what the
      -- induction asks
      have hvcoherent : v.Coherent :=
        everywhere_toMember.mp (ht.2 _ (hsplit ▸ List.mem_append_right _ List.mem_cons_self))
      have hinside := ih hvcoherent hu
      rw [update, hupdate]
      cases t
      simp only at hsplit
      subst hsplit
      exact .inside hinside

/-- Replacing a type by itself changes nothing. -/
theorem Replaced.eq_of_self {u t t' : TypeDecl} (h : Replaced u u t t') : t' = t := by
  induction h with
  | here => rfl
  | inside _ ih => rw [ih]

/-- A replacement that is declared like the type before it keeps how the whole tree is declared. -/
theorem Replaced.declared_eq {u u' t t' : TypeDecl} (h : Replaced u u' t t')
    (hu : u'.header.declared = u.header.declared) : t'.header.declared = t.header.declared := by
  cases h with
  | here => exact hu
  | inside _ => rfl

/-- What holds everywhere is kept by a replacement for which it holds everywhere, provided that it
does not look into nested types further than how they are declared. -/
theorem Replaced.everywhere {P : TypeDecl → Prop} {u u' t t' : TypeDecl} (h : Replaced u u' t t')
    (hstable : ∀ {header : TypeHeader} {identities : List Identity} {before after : List Member}
      {v v' : TypeDecl}, v'.header.declared = v.header.declared →
      P ⟨header, identities, before ++ v.toMember :: after⟩ →
      P ⟨header, identities, before ++ v'.toMember :: after⟩)
    (hu : u'.header.declared = u.header.declared) (ht : t.Everywhere P)
    (hu' : u'.Everywhere P) : t'.Everywhere P := by
  induction h with
  | here => exact hu'
  | @inside _ _ before after v v' hv ih =>
    obtain ⟨hP, hmembers⟩ := ht
    have hv' : v'.Everywhere P := by
      refine ih (everywhere_toMember.mp (hmembers _ ?_))
      exact List.mem_append_right _ List.mem_cons_self
    refine ⟨hstable (hv.declared_eq hu) hP, ?_⟩
    intro m hm
    simp only [List.mem_append, List.mem_cons] at hm
    rcases hm with hm | rfl | hm
    · exact hmembers m (List.mem_append_left _ hm)
    · exact everywhere_toMember.mpr hv'
    · exact hmembers m (List.mem_append_right _ (List.mem_cons_of_mem _ hm))

/-- Identities do not look into nested types further than how they are declared. -/
theorem KeepsIdentities.of_nested_declared_eq {header : TypeHeader} {identities : List Identity}
    {before after : List Member} {v v' : TypeDecl} (h : v'.header.declared = v.header.declared)
    (ht : KeepsIdentities ⟨header, identities, before ++ v.toMember :: after⟩) :
    KeepsIdentities ⟨header, identities, before ++ v'.toMember :: after⟩ := by
  have hname := TypeHeader.name_eq_of_declared_eq h
  refine ⟨?_, ht.2⟩
  simpa [Member.identity, toMember, hname] using ht.1

end TypeDecl

end JavaScribe
