import JavaScribe.Proofs.DeclaredMember
import JavaScribe.Proofs.ReachableSession

/-!
# Declared constructors and methods

The constructors and methods of a unit are those of all types in it, at any depth.  Each of them
comes from an accepted edit and has the annotations that the edit gave it
(`CompilationUnit.Built.exists_edit_of_mem_executables`), so what is known of the annotations in all
edits is known of the whole tree.

An edit of a type somewhere in the tree adds to the tree what it adds to the type: on the way to the
root, `TypeDecl.Replaced` changes one nested type and leaves the rest alone.
-/

set_option autoImplicit false

namespace JavaScribe

mutual
/-- The constructors and methods that a member is or has inside. -/
def Member.executables : Member → List Executable
  | .field _ => []
  | .executable e => [e]
  | .type _ _ members => Member.executablesIn members

/-- The constructors and methods in a list of members. -/
def Member.executablesIn : List Member → List Executable
  | [] => []
  | m :: ms => m.executables ++ Member.executablesIn ms
end

/-- The constructors and methods of a type and of all types nested in it. -/
def TypeDecl.executables (t : TypeDecl) : List Executable := Member.executablesIn t.members

namespace Member

/-- The constructors and methods of two lists of members are those of each list, in order. -/
theorem executablesIn_append (ms ms' : List Member) :
    executablesIn (ms ++ ms') = executablesIn ms ++ executablesIn ms' := by
  induction ms with
  | nil => rfl
  | cons m ms ih => rw [List.cons_append, executablesIn, executablesIn, ih, List.append_assoc]

end Member

/-- The annotations that an edit gives to a constructor or method. -/
def Edit.executableAnnotations : Edit → List Annotation
  | .method spec => spec.options.annotations
  | .constructor spec => spec.options.annotations
  | _ => []

/-- A declared constructor or method has the annotations that its declaration gives it. -/
theorem Edit.Declares.annotations_eq {owner : TypeHeader} {p : Place} {ed : Edit} {m : Member}
    (h : ed.Declares owner p m) {x : Executable} (hx : x ∈ m.executables) :
    x.options.annotations = ed.executableAnnotations := by
  cases h with
  | field => exact absurd hx List.not_mem_nil
  | method => rw [List.mem_singleton.mp hx]; rfl
  | constructor => rw [List.mem_singleton.mp hx]; rfl
  | nestedType => exact absurd hx List.not_mem_nil

namespace TypeDecl

/-- An accepted edit adds at most a constructor or method with the annotations that it gives. -/
theorem mem_executables_of_edit {t : TypeDecl} {p : Place} {ed : Edit} {e : Effect}
    (he : t.edit p ed = .ok e) {x : Executable} (hx : x ∈ e.type.executables) :
    x ∈ t.executables ∨ x.options.annotations = ed.executableAnnotations := by
  cases h : ed.declaresMember with
  | false =>
    obtain ⟨header, htype, -⟩ := edit_type_of_not_declaresMember h he
    rw [htype] at hx
    exact .inl hx
  | true =>
    obtain ⟨m, hm, htype⟩ := declares_of_edit h he
    rw [htype, executables, withMember, Member.executablesIn_append, List.mem_append] at hx
    rcases hx with hx | hx
    · exact .inl hx
    · rw [Member.executablesIn, Member.executablesIn, List.append_nil] at hx
      exact .inr (hm.annotations_eq hx)

/-- A type that was just declared has no constructors and methods. -/
theorem executables_of_declare {s : TypeSpec} {site : Site} {p : Place} {e : Effect}
    (h : s.declare site p = .ok e) : e.type.executables = [] := by
  obtain ⟨-, -, -, category, accepted, -, -, rfl⟩ := TypeSpec.declare_eq_ok_iff.mp h
  rfl

/-- What is new of the constructors and methods of a type in a tree is new of those of the tree. -/
theorem Replaced.mem_executables {u u' t t' : TypeDecl} (h : Replaced u u' t t')
    {P : Executable → Prop} (hu : ∀ x ∈ u'.executables, x ∈ u.executables ∨ P x)
    {x : Executable} (hx : x ∈ t'.executables) : x ∈ t.executables ∨ P x := by
  induction h with
  | here => exact hu x hx
  | @inside header identities before after v v' _ ih =>
    have hv : x ∈ v'.toMember.executables → x ∈ v.toMember.executables ∨ P x := ih
    simp only [executables, Member.executablesIn_append, Member.executablesIn,
      List.mem_append] at hx ⊢
    rcases hx with hx | hx | hx
    · exact .inl (.inl hx)
    · exact (hv hx).imp_left fun hx => .inr (.inl hx)
    · exact .inl (.inr (.inr hx))

end TypeDecl

namespace CompilationUnit

/-- Every constructor and method of a unit has the annotations that an accepted edit gave it. -/
theorem Built.exists_edit_of_mem_executables {edits : List Edit} {u : CompilationUnit}
    (h : Built edits u) {x : Executable} (hx : x ∈ u.root.executables) :
    ∃ ed ∈ edits, x.options.annotations = ed.executableAnnotations := by
  induction h with
  | declare h =>
    obtain ⟨e, he, rfl, -⟩ := declare_eq_ok_iff.mp h
    rw [TypeDecl.executables_of_declare he] at hx
    cases hx
  | @edit edits u v path ed log hu h ih =>
    obtain ⟨t, e, hfind, he, rfl, -⟩ := edit_eq_ok_iff.mp h
    -- what is new in the tree is new in the type that the edit was made on
    have hreplaced := hu.coherent.replaced e.type hfind
    rcases hreplaced.mem_executables (fun x hx => TypeDecl.mem_executables_of_edit he hx) hx with
      hx | hx
    · obtain ⟨ed', hed', hannotations⟩ := ih hx
      exact ⟨ed', List.mem_append_left _ hed', hannotations⟩
    · exact ⟨ed, List.mem_append_right _ List.mem_cons_self, hx⟩

end CompilationUnit

namespace Session

/-- An edit that is accepted is the one that was asked for. -/
theorem exists_eq_of_mem_acceptedEdit {i : Nat} {s : Session} {x : Action} {ed : Edit}
    (h : ed ∈ s.acceptedEdit i x) : ∃ a, x = .edit a ed := by
  cases x with
  | openUnit => cases h
  | edit address ed' =>
    rw [acceptedEdit] at h
    split at h
    · split at h
      · exact ⟨address, by rw [List.mem_singleton.mp h]⟩
      · cases h
    · cases h

/-- All that is accepted of a unit was asked for. -/
theorem exists_action_of_mem_acceptedEdits {i : Nat} {s : Session} {actions : List Action}
    {ed : Edit} (h : ed ∈ acceptedEdits i s actions) : ∃ a, .edit a ed ∈ actions := by
  induction actions generalizing s with
  | nil => cases h
  | cons x xs ih =>
    rcases List.mem_append.mp h with h | h
    · obtain ⟨a, rfl⟩ := exists_eq_of_mem_acceptedEdit h
      exact ⟨a, List.mem_cons_self⟩
    · obtain ⟨a, ha⟩ := ih h
      exact ⟨a, List.mem_cons_of_mem x ha⟩

/-- If all annotations that are asked for on constructors and methods satisfy something, so do those
of the constructors and methods in every unit that is reached. -/
theorem annotations_of_mem_executables {P : Annotation → Prop} {actions : List Action}
    (hasked : ∀ a ed, .edit a ed ∈ actions → ∀ x ∈ ed.executableAnnotations, P x) {i : Nat}
    {u : CompilationUnit} (hu : (empty.performAll actions).units[i]? = some u) {e : Executable}
    (he : e ∈ u.root.executables) : ∀ x ∈ e.options.annotations, P x := by
  obtain ⟨ed, hed, hannotations⟩ := (built_of_getElem? hu).exists_edit_of_mem_executables he
  obtain ⟨a, ha⟩ := exists_action_of_mem_acceptedEdits hed
  rw [hannotations]
  exact hasked a ed ha

end Session

end JavaScribe
