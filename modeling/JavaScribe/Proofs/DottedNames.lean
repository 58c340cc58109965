import JavaScribe.TypeExpr.Basic
import Mathlib.Data.List.Basic

/-!
# Dotted names

A dotted name is made of identifiers with dots between them, of one at least.  The parts of a name
are such identifiers when each of them passes as one, and so are the part in front of the first dot
and two dotted names joined by a dot.  A dotted name starts with a character of an identifier, never
with a dot.  The checks of names accept just what they are for.
-/

set_option autoImplicit false

namespace JavaScribe

/-- A name passes the check of its role if it is an identifier. -/
theorem requireIdentifier_eq_ok_iff {role name : String} :
    requireIdentifier role name = .ok () ↔ isIdentifier name = true := by
  unfold requireIdentifier
  split <;> simp_all

/-- A name passes the check of packages if it is the name of a package. -/
theorem requirePackageName_eq_ok_iff {name : String} :
    requirePackageName name = .ok () ↔ isPackageName name = true := by
  unfold requirePackageName
  split <;> simp_all

/-- Several names pass the check of their role if all of them are identifiers. -/
theorem TypeExpr.requireIdentifiers_eq_ok_iff {role : String} {names : List String} :
    TypeExpr.requireIdentifiers role names = .ok () ↔ ∀ name ∈ names, isIdentifier name = true := by
  induction names with
  | nil => simp [requireIdentifiers]
  | cons name names ih =>
    rw [List.forall_mem_cons, ← ih, requireIdentifiers, requireIdentifier]
    cases isIdentifier name <;> simp

/-- When a reference to a type is legal, and which type it is. -/
theorem TypeExpr.reference_eq_ok_iff {name package : String} {arguments : List TypeExpr}
    {t : TypeExpr} :
    reference name package arguments = .ok t ↔
      (∀ part ∈ dottedParts name, isIdentifier part = true) ∧ isPackageName package = true ∧
        t = named name package arguments false := by
  have hname := @requireIdentifiers_eq_ok_iff "type name" (dottedParts name)
  have hpackage := @requirePackageName_eq_ok_iff package
  unfold reference
  cases hparts : requireIdentifiers "type name" (dottedParts name) with
  | error e =>
    rw [hparts] at hname
    simp [← hname]
  | ok =>
    have hname := hname.mp hparts
    cases hrequired : requirePackageName package with
    | error e =>
      rw [hrequired] at hpackage
      simp [← hpackage]
    | ok =>
      have hpackage := hpackage.mp hrequired
      simp only [hpackage, true_and, Except.ok.injEq]
      exact ⟨fun h => ⟨hname, h.symm⟩, fun h => h.2.symm⟩

/-- When a type variable is legal, and which type it is. -/
theorem TypeExpr.variableNamed_eq_ok_iff {name : String} {t : TypeExpr} :
    variableNamed name = .ok t ↔ isIdentifier name = true ∧ t = var name := by
  unfold variableNamed requireIdentifier
  cases isIdentifier name with
  | true => simp [eq_comm]
  | false => simp

/-- An identifier has the shape of one; it is moreover no reserved word. -/
theorem hasIdentifierShape_of_isIdentifier {name : String} (h : isIdentifier name = true) :
    hasIdentifierShape name.toList = true := by
  unfold isIdentifier at h
  exact (Bool.and_eq_true_iff.mp h).1

/-- What has the shape of an identifier is not empty and has characters of identifiers only. -/
theorem isIdentifierPart_of_hasIdentifierShape {cs : List Char} (h : hasIdentifierShape cs = true) :
    cs ≠ [] ∧ ∀ c ∈ cs, isIdentifierPart c = true := by
  cases cs with
  | nil => cases h
  | cons c cs =>
    rw [hasIdentifierShape, Bool.and_eq_true, List.all_eq_true] at h
    obtain ⟨hstart, hparts⟩ := h
    refine ⟨List.cons_ne_nil c cs, fun d hd => ?_⟩
    rcases List.mem_cons.mp hd with rfl | hd
    · rw [isIdentifierPart, hstart, Bool.true_or]
    · exact hparts d hd

/-- Whether a name is made of identifiers with dots between them. -/
def IsDotted (name : String) : Prop :=
  ∃ parts : List String, parts ≠ [] ∧ (∀ part ∈ parts, isIdentifier part = true) ∧
    name = ".".intercalate parts

/-- An identifier is a dotted name without dots. -/
theorem isDotted_of_isIdentifier {name : String} (h : isIdentifier name = true) :
    IsDotted name := by
  refine ⟨[name], by simp, ?_, ?_⟩
  · intro part hpart
    rw [List.mem_singleton.mp hpart]
    exact h
  · rw [String.intercalate_singleton]

/-- The parts of a dotted name make up the name again. -/
theorem intercalate_dottedParts (name : String) : ".".intercalate (dottedParts name) = name := by
  rw [← String.toList_inj, String.toList_intercalate]
  simp [dottedParts, List.intercalate_splitOn]

/-- Every dotted name has at least one part. -/
theorem dottedParts_ne_nil (name : String) : dottedParts name ≠ [] := by
  simp [dottedParts, List.splitOn_ne_nil]

/-- Identifiers with dots between them are a dotted name. -/
theorem isDotted_of_dottedParts {name : String}
    (h : ∀ part ∈ dottedParts name, isIdentifier part = true) : IsDotted name :=
  ⟨dottedParts name, dottedParts_ne_nil name, h, (intercalate_dottedParts name).symm⟩

/-- A package name is dotted, unless it is that of the default package. -/
theorem isDotted_of_isPackageName {package : String} (h : isPackageName package = true)
    (hne : package ≠ "") : IsDotted package := by
  have hparts : (dottedParts package).all isIdentifier = true := by
    simpa [isPackageName, hne] using h
  exact isDotted_of_dottedParts (List.all_eq_true.mp hparts)

/-- A dotted name in a dotted name is dotted again. -/
theorem IsDotted.append {name member : String} (hname : IsDotted name) (hmember : IsDotted member) :
    IsDotted (name ++ "." ++ member) := by
  obtain ⟨xs, hxs, hxs', rfl⟩ := hname
  obtain ⟨ys, hys, hys', rfl⟩ := hmember
  refine ⟨xs ++ ys, by simp [hxs], ?_, ?_⟩
  · intro part hpart
    rcases List.mem_append.mp hpart with hpart | hpart
    · exact hxs' part hpart
    · exact hys' part hpart
  · rw [String.intercalate_append_of_ne_nil hxs hys]

/-- The first piece of a list that is split is the part in front of the first separator. -/
theorem head?_splitOn (a : Char) (cs : List Char) :
    (cs.splitOn a).head? = some (cs.takeWhile (· != a)) := by
  induction cs with
  | nil => rfl
  | cons c cs ih =>
    unfold List.splitOn at ih ⊢
    rw [List.splitOnP_cons_eq_if_modifyHead]
    by_cases h : c = a
    · simp [h]
    · have hne : (c == a) = false := by simpa using h
      rw [hne, if_neg Bool.false_ne_true, List.head?_modifyHead, ih]
      simp [h]

/-- The part of a name in front of its first dot is one of its parts. -/
theorem TypeName.outermost_mem_dottedParts (n : TypeName) : n.outermost ∈ dottedParts n.name := by
  have hhead := head?_splitOn '.' n.name.toList
  exact List.mem_map.mpr ⟨_, List.mem_of_head? hhead, rfl⟩

/-- A dotted name starts with a character that starts an identifier. -/
theorem IsDotted.exists_start {name : String} (h : IsDotted name) :
    ∃ c cs, name.toList = c :: cs ∧ isIdentifierStart c = true := by
  obtain ⟨parts, hne, hparts, rfl⟩ := h
  obtain ⟨part, parts, rfl⟩ := List.exists_cons_of_ne_nil hne
  have hpart : isIdentifier part = true := hparts part List.mem_cons_self
  have hshape := hasIdentifierShape_of_isIdentifier hpart
  rw [String.toList_intercalate, List.map_cons]
  cases hchars : part.toList with
  | nil =>
    rw [hchars] at hshape
    cases hshape
  | cons c cs =>
    rw [hchars] at hshape
    have hstart : isIdentifierStart c = true := (Bool.and_eq_true_iff.mp hshape).1
    cases parts with
    | nil => exact ⟨c, cs, by simp, hstart⟩
    | cons next parts =>
      rw [List.map_cons, List.intercalate_cons_cons]
      exact ⟨c, _, rfl, hstart⟩

end JavaScribe
