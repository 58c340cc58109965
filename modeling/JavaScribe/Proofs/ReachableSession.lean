import JavaScribe.Session.Basic
import JavaScribe.Proofs.StepwiseBuilding
import Mathlib.Data.List.Induction

/-!
# Reachable sessions

A session is reached from the empty one by performing actions, accepted and refused ones in any
order.  Of a single unit, what counts is how it was opened and which edits were accepted on it
since: `CompilationUnit.Built` is the inductive description, and `Session.built_of_getElem?` says
that it fits every unit of every session that is reached.  Properties of units are shown by
induction on it, those of all types of a unit by `CompilationUnit.Built.everywhere`.

The induction needs that performing an action comes to what judging it says
(`Session.perform_eq_judged`), and this in turn needs that names lead to one type only, which is
one of the properties shown by the induction.  With it, a refused action leaves nothing behind.
-/

set_option autoImplicit false

namespace JavaScribe

namespace CompilationUnit

/-- When a unit is opened, and what it holds then. -/
theorem declare_eq_ok_iff {package : String} {spec : TypeSpec} {u : CompilationUnit} {log : Log} :
    declare package spec = .ok (u, log) ↔
      ∃ e, spec.declare .topLevel ⟨package, [spec.name]⟩ = .ok e ∧
        u = ⟨e.type, (ImportSet.empty package).addAll e.imports, e.warnings⟩ ∧ log = e.log := by
  simp only [declare, except_bind_eq_ok_iff, pure, Except.pure, Except.ok.injEq, Prod.mk.injEq]
  constructor
  · rintro ⟨e, he, rfl, rfl⟩
    exact ⟨e, he, rfl, rfl⟩
  · rintro ⟨e, he, rfl, rfl⟩
    exact ⟨e, he, rfl, rfl⟩

/-- When an edit of a unit is accepted, and what the unit holds then. -/
theorem edit_eq_ok_iff {u u' : CompilationUnit} {path : List String} {ed : Edit} {log : Log} :
    u.edit path ed = .ok (u', log) ↔
      ∃ t e, u.find? path = some t ∧ t.edit (u.place path) ed = .ok e ∧
        u' = u.apply path e ∧ log = e.log := by
  unfold edit
  cases hfind : u.find? path with
  | none => simp
  | some t =>
    simp only [except_bind_eq_ok_iff, pure, Except.pure, Except.ok.injEq, Prod.mk.injEq,
      Option.some.injEq]
    constructor
    · rintro ⟨e, he, rfl, rfl⟩
      exact ⟨t, e, rfl, he, rfl, rfl⟩
    · rintro ⟨_, e, rfl, he, rfl, rfl⟩
      exact ⟨e, he, rfl, rfl⟩

/-- A unit as it is after it was opened and the given edits were accepted on it, in turn. -/
inductive Built : List Edit → CompilationUnit → Prop where
  | declare {package : String} {spec : TypeSpec} {u : CompilationUnit} {log : Log} :
    declare package spec = .ok (u, log) → Built [] u
  | edit {edits : List Edit} {u u' : CompilationUnit} {path : List String} {ed : Edit}
    {log : Log} : Built edits u → u.edit path ed = .ok (u', log) → Built (edits ++ [ed]) u'

/-- An invariant holds everywhere in a unit that was just opened. -/
theorem everywhere_of_declare {P : TypeDecl → Prop} (hP : TypeDecl.Invariant P)
    {package : String} {spec : TypeSpec} {u : CompilationUnit} {log : Log}
    (h : declare package spec = .ok (u, log)) : u.root.Everywhere P := by
  obtain ⟨e, he, rfl, -⟩ := declare_eq_ok_iff.mp h
  exact hP.everywhere_declare he

/-- An edit of a coherent unit keeps an invariant of its types. -/
theorem everywhere_of_edit {P : TypeDecl → Prop} (hP : TypeDecl.Invariant P)
    {u u' : CompilationUnit} {path : List String} {ed : Edit} {log : Log}
    (h : u.edit path ed = .ok (u', log)) (hcoherent : u.root.Coherent)
    (hu : u.root.Everywhere P) : u'.root.Everywhere P := by
  obtain ⟨t, e, hfind, he, rfl, -⟩ := edit_eq_ok_iff.mp h
  exact (hcoherent.replaced e.type hfind).everywhere hP.nested (TypeDecl.edit_declared_eq he) hu
    (hP.everywhere_edit he (hu.find? hfind))

/-- In a unit, names lead to one type only. -/
theorem Built.coherent {edits : List Edit} {u : CompilationUnit} (h : Built edits u) :
    u.root.Coherent := by
  induction h with
  | declare h => exact everywhere_of_declare TypeDecl.invariant_keepsIdentities h
  | edit _ h ih => exact everywhere_of_edit TypeDecl.invariant_keepsIdentities h ih ih

/-- An invariant holds everywhere in a unit that is built. -/
theorem Built.everywhere {P : TypeDecl → Prop} (hP : TypeDecl.Invariant P) {edits : List Edit}
    {u : CompilationUnit} (h : Built edits u) : u.root.Everywhere P := by
  induction h with
  | declare h => exact everywhere_of_declare hP h
  | edit hu h ih => exact everywhere_of_edit hP h hu.coherent ih

end CompilationUnit

namespace Session

/-- What performing an action comes to if it comes to what judging it says. -/
def judged (s : Session) : Except EditError (Session × Log) → Performed
  | .ok (s', log) => ⟨.ok (), s', log⟩
  | .error e => ⟨.error e, s, []⟩

/-- Opening a unit step by step comes to what judging it says. -/
theorem performOpen_eq_judged (s : Session) (package : String) (spec : TypeSpec) :
    s.performOpen package spec = s.judged (s.act (.openUnit package spec)) := by
  simp only [performOpen, act, CompilationUnit.declare, FileBuilder.run_declareType]
  cases spec.declare .topLevel ⟨package, [spec.name]⟩ with
  | error e => rfl
  | ok e => rfl

/-- Editing a type step by step comes to what judging the edit says, if names lead to one type
only. -/
theorem performEdit_eq_judged {s : Session} (hs : ∀ u ∈ s.units, u.root.Coherent) (a : Address)
    (ed : Edit) : s.performEdit a ed = s.judged (s.act (.edit a ed)) := by
  simp only [performEdit, act, find?]
  cases hunit : s.units[a.unit]? with
  | none => rfl
  | some u =>
    simp only [CompilationUnit.edit]
    cases hfind : u.find? a.path with
    | none => rfl
    | some t =>
      have hbegin : (u.begin t).type = t := rfl
      simp only [Option.map_some, TypeBuilder.run_edit, hbegin]
      cases he : t.edit (u.place a.path) ed with
      | ok e =>
        rfl
      | error e =>
        have hcoherent := hs u (List.mem_of_getElem? hunit)
        -- the steps of a refused edit still put the type back at the path; since the path leads to
        -- no other type, this puts `t` in its own place
        have hroot := (hcoherent.replaced t hfind).eq_of_self
        have hsettle : u.settle a.path (u.begin t) = u := by
          simp only [CompilationUnit.settle, CompilationUnit.begin, hroot]
        have hunits : s.units.set a.unit u = s.units := by
          obtain ⟨hlt, rfl⟩ := List.getElem?_eq_some_iff.mp hunit
          exact List.set_getElem_self hlt
        simp only [TypeState.judged, hsettle, hunits]
        rfl

/-- If names lead to one type only, performing any action comes to what judging it says. -/
theorem perform_eq_judged {s : Session} (hs : ∀ u ∈ s.units, u.root.Coherent) (a : Action) :
    s.perform a = s.judged (s.act a) := by
  cases a with
  | openUnit package spec => exact performOpen_eq_judged s package spec
  | edit address ed => exact performEdit_eq_judged hs address ed

/-- The edit of a unit that an action is, if it is one that is accepted. -/
def acceptedEdit (i : Nat) (s : Session) : Action → List Edit
  | .openUnit .. => []
  | .edit address ed =>
    match (s.perform (.edit address ed)).outcome with
    | .ok () => if address.unit = i then [ed] else []
    | .error _ => []

/-- The edits of a unit that are accepted when actions are performed in turn. -/
def acceptedEdits (i : Nat) : Session → List Action → List Edit
  | _, [] => []
  | s, a :: as => s.acceptedEdit i a ++ acceptedEdits i (s.perform a).session as

/-- Of several actions the last one is performed last. -/
theorem performAll_concat (s : Session) (as : List Action) (a : Action) :
    s.performAll (as ++ [a]) = ((s.performAll as).perform a).session := by
  simp only [performAll, List.foldl_append, List.foldl_cons, List.foldl_nil]

/-- The accepted edits of several actions are those before the last one and its own. -/
theorem acceptedEdits_concat (i : Nat) (s : Session) (as : List Action) (a : Action) :
    acceptedEdits i s (as ++ [a]) =
      acceptedEdits i s as ++ (s.performAll as).acceptedEdit i a := by
  induction as generalizing s with
  | nil => simp only [List.nil_append, acceptedEdits, List.append_nil]; rfl
  | cons b as ih =>
    simp only [List.cons_append, acceptedEdits, ih, List.append_assoc]
    rfl

/-- Whether the number of a unit and edits belong together: the unit is built by the edits, or there
is no unit of this number and there are no edits. -/
def Tracks (s : Session) (i : Nat) (edits : List Edit) : Prop :=
  match s.units[i]? with
  | some u => CompilationUnit.Built edits u
  | none => edits = []

/-- One action keeps accepted edits and units together. -/
theorem Tracks.perform {s : Session} (hs : ∀ u ∈ s.units, u.root.Coherent) {i : Nat}
    {edits : List Edit} (h : s.Tracks i edits) (a : Action) :
    (s.perform a).session.Tracks i (edits ++ s.acceptedEdit i a) := by
  cases a with
  | openUnit package spec =>
    rw [acceptedEdit, List.append_nil, perform_eq_judged hs]
    simp only [act]
    cases hdeclare : CompilationUnit.declare package spec with
    | error e => exact h
    | ok r =>
      obtain ⟨v, log⟩ := r
      show Tracks ⟨s.units ++ [v]⟩ i edits
      unfold Tracks at h ⊢
      -- the new unit comes last, so those before it stay and its own index was free
      by_cases hi : i < s.units.length
      · rwa [List.getElem?_append_left hi]
      · rw [List.getElem?_eq_none (Nat.le_of_not_lt hi)] at h
        subst h
        rw [List.getElem?_append_right (Nat.le_of_not_lt hi)]
        cases i - s.units.length with
        | zero => exact .declare hdeclare
        | succ k => rfl
  | edit address ed =>
    rw [acceptedEdit, perform_eq_judged hs]
    simp only [act]
    cases hunit : s.units[address.unit]? with
    | none => simpa only [judged, List.append_nil] using h
    | some u =>
      cases hedit : u.edit address.path ed with
      | error e => simpa only [judged, bind, Except.bind, hedit, List.append_nil] using h
      | ok r =>
        obtain ⟨v, log⟩ := r
        simp only [judged, bind, Except.bind, hedit, pure, Except.pure]
        unfold Tracks at h ⊢
        obtain ⟨hlt, -⟩ := List.getElem?_eq_some_iff.mp hunit
        -- the unit with the address has one more accepted edit, and all others are as before
        by_cases hi : address.unit = i
        · subst hi
          rw [hunit] at h
          rw [if_pos rfl, List.getElem?_set_self hlt]
          exact .edit h hedit
        · rw [if_neg hi, List.getElem?_set_ne hi, List.append_nil]
          exact h

/-- Whatever is performed, accepted edits and units belong together. -/
theorem tracks_performAll (actions : List Action) (i : Nat) :
    (empty.performAll actions).Tracks i (acceptedEdits i empty actions) := by
  induction actions using List.reverseRecOn generalizing i with
  | nil => rfl
  | append_singleton as a ih =>
    -- the step needs all units coherent, so the induction has to speak of every number at once
    have hcoherent : ∀ u ∈ (empty.performAll as).units, u.root.Coherent := by
      intro u hu
      obtain ⟨j, hj⟩ := List.getElem?_of_mem hu
      have hbuilt := ih j
      rw [Tracks, hj] at hbuilt
      exact hbuilt.coherent
    rw [acceptedEdits_concat, performAll_concat]
    exact (ih i).perform hcoherent a

/-- Every unit that is reached is built by the edits that were accepted on it. -/
theorem built_of_getElem? {actions : List Action} {i : Nat} {u : CompilationUnit}
    (hu : (empty.performAll actions).units[i]? = some u) :
    CompilationUnit.Built (acceptedEdits i empty actions) u := by
  have htracks := tracks_performAll actions i
  rwa [Tracks, hu] at htracks

/-- In every unit that is reached, names lead to one type only. -/
theorem coherent_of_mem_units {actions : List Action} {u : CompilationUnit}
    (hu : u ∈ (empty.performAll actions).units) : u.root.Coherent := by
  obtain ⟨i, hi⟩ := List.getElem?_of_mem hu
  exact (built_of_getElem? hi).coherent

/-- What is at an address is what the path leads to in the unit. -/
theorem find?_eq_some_iff {s : Session} {a : Address} {u : CompilationUnit} {t : TypeDecl} :
    s.find? a = some (u, t) ↔ s.units[a.unit]? = some u ∧ u.find? a.path = some t := by
  unfold find?
  cases s.units[a.unit]? with
  | none => simp
  | some v =>
    simp only [Option.map_eq_some_iff, Prod.mk.injEq, Option.some.injEq]
    constructor
    · rintro ⟨_, hpath, rfl, rfl⟩
      exact ⟨rfl, hpath⟩
    · rintro ⟨rfl, hpath⟩
      exact ⟨t, hpath, rfl, rfl⟩

/-- An invariant holds of every type of a session that is reached, and of all types inside it. -/
theorem everywhere_of_find? {P : TypeDecl → Prop} (hP : TypeDecl.Invariant P)
    {actions : List Action} {a : Address} {u : CompilationUnit} {t : TypeDecl}
    (hfind : (empty.performAll actions).find? a = some (u, t)) : t.Everywhere P := by
  obtain ⟨hunit, hpath⟩ := find?_eq_some_iff.mp hfind
  exact ((built_of_getElem? hunit).everywhere hP).find? hpath

/-- An invariant holds of every type of a session that is reached. -/
theorem invariant_of_find? {P : TypeDecl → Prop} (hP : TypeDecl.Invariant P)
    {actions : List Action} {a : Address} {u : CompilationUnit} {t : TypeDecl}
    (hfind : (empty.performAll actions).find? a = some (u, t)) : P t :=
  (everywhere_of_find? hP hfind).1

/-- A refused action leaves no trace: the session is what it was, with all members, identities,
annotations, interfaces and type parameters, all imports and all warnings, and nothing is logged. -/
theorem perform_refused (actions : List Action) (a : Action) (e : EditError)
    (h : ((empty.performAll actions).perform a).outcome = .error e) :
    ((empty.performAll actions).perform a).session = empty.performAll actions ∧
      ((empty.performAll actions).perform a).log = [] := by
  rw [perform_eq_judged fun u hu => coherent_of_mem_units hu] at h ⊢
  cases hact : (empty.performAll actions).act a with
  | error e => exact ⟨rfl, rfl⟩
  | ok r => simp [hact, judged] at h

/-- A method of an interface that is `public`, which is redundant, and `final`, which is illegal,
leaves neither its warning nor the import of its type behind. -/
theorem perform_refused_after_redundant :
    let shapes := empty.performAll [.openUnit "shapes" { kind := .interfaceType, name := "Shape" }]
    let points : Action := .edit ⟨0, []⟩ (.method
      { returnType := .named "List" "java.util" [] false, name := "points"
        options := { modifiers := ⟨17⟩ } })
    (shapes.perform points).outcome =
        .error (.modifiers (.illegal .final ⟨.method, .inInterface, "points", false, false⟩)) ∧
      (shapes.perform points).session = shapes ∧ (shapes.perform points).log = [] :=
  ⟨rfl, perform_refused _ _ _ rfl⟩

end Session

end JavaScribe
