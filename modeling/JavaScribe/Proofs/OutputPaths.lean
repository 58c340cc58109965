import JavaScribe.File.Path
import JavaScribe.Proofs.DottedNames
import JavaScribe.Proofs.UnbrokenLines
import JavaScribe.Source.Basic

/-!
# Where source files go

The path of a source file is written from the package and the name of its type, and both can be read
off it again.  A package is made of identifiers and so is the name, and neither dots nor slashes are
characters of identifiers.  So the parts of the path are just the directories and the name of the
file, each of them a plain name of a file (`FilePath.ofText_intercalate`), and two types whose files
have one path have one package and one name.
-/

set_option autoImplicit false

namespace JavaScribe

namespace FilePath

/-- Whether a part of a path names a file or a directory in the directory that it is looked up
in. -/
structure IsPlain (part : String) : Prop where
  ne_empty : part ≠ ""
  ne_here : part ≠ "."
  ne_above : part ≠ ".."
  slash_not_mem : '/' ∉ part.toList

/-- What has something in front of its first slash does not start with one. -/
theorem takeWhile_slash_eq_nil {cs : List Char} (h : cs.takeWhile (· != '/') ≠ []) :
    cs.takeWhile (· == '/') = [] := by
  cases cs with
  | nil => rfl
  | cons c cs =>
    apply List.takeWhile_cons_of_neg
    intro hc
    rw [List.takeWhile_cons_of_neg (by simpa using hc)] at h
    exact h rfl

/-- The text of a path that is put together from plain names is read as these names. -/
theorem ofText_intercalate {parts : List String} (hne : parts ≠ [])
    (hplain : ∀ part ∈ parts, IsPlain part) : ofText ("/".intercalate parts) = ⟨0, parts⟩ := by
  have hsplit : ("/".intercalate parts).toList.splitOn '/' = parts.map String.toList := by
    rw [String.toList_intercalate]
    apply List.splitOn_intercalate '/' _ (by simpa using hne)
    exact List.forall_mem_map.mpr fun part hpart => (hplain part hpart).slash_not_mem
  have hfirst : ("/".intercalate parts).toList.takeWhile (· != '/') ≠ [] := by
    have hhead := head?_splitOn '/' ("/".intercalate parts).toList
    obtain ⟨part, more, rfl⟩ := List.exists_cons_of_ne_nil hne
    rw [hsplit, List.map_cons, List.head?_cons, Option.some.injEq] at hhead
    rw [← hhead]
    exact mt String.toList_eq_nil_iff.mp (hplain part List.mem_cons_self).ne_empty
  have hkept : parts.filter (fun p => p != "" && p != ".") = parts := by
    rw [List.filter_eq_self]
    intro part hpart
    simp [(hplain part hpart).ne_empty, (hplain part hpart).ne_here]
  simp only [ofText, hsplit, takeWhile_slash_eq_nil hfirst, List.map_map, Function.comp_def,
    String.ofList_toList, List.map_id', hkept]
  rfl

/-- What starts with an identifier is a plain name if it holds no slash. -/
theorem isPlain_append {name ending : String} (hname : isIdentifier name = true)
    (hending : '/' ∉ ending.toList) : IsPlain (name ++ ending) := by
  obtain ⟨hne, hparts⟩ :=
    isIdentifierPart_of_hasIdentifierShape (hasIdentifierShape_of_isIdentifier hname)
  obtain ⟨c, cs, hchars⟩ := List.exists_cons_of_ne_nil hne
  have hc : isIdentifierPart c = true := hparts c (by rw [hchars]; exact List.mem_cons_self)
  have htext : (name ++ ending).toList = c :: (cs ++ ending.toList) := by
    rw [String.toList_append, hchars, List.cons_append]
  have hdot : ∀ (s : String) (ds : List Char), s.toList = '.' :: ds → name ++ ending ≠ s := by
    intro s ds hs heq
    rw [← heq, htext] at hs
    obtain ⟨rfl, -⟩ := List.cons.inj hs
    exact absurd hc (by decide)
  refine ⟨fun hempty => ?_, hdot "." [] rfl, hdot ".." ['.'] rfl, fun hslash => ?_⟩
  · rw [← String.toList_eq_nil_iff, htext] at hempty
    cases hempty
  · rw [String.toList_append, List.mem_append] at hslash
    rcases hslash with hslash | hslash
    · exact absurd (hparts '/' hslash) (by decide)
    · exact hending hslash

/-- An identifier is a plain part of a path. -/
theorem isPlain_of_isIdentifier {name : String} (h : isIdentifier name = true) : IsPlain name := by
  have happend : IsPlain (name ++ "") := isPlain_append h List.not_mem_nil
  rwa [String.append_empty] at happend

end FilePath

namespace CompilationUnit

/-- An edit does not change the package of a unit. -/
theorem package_apply (u : CompilationUnit) (path : List String) (e : Effect) :
    (u.apply path e).package = u.package := ImportSet.package_addAll u.imports e.imports

/-- The package of a unit was accepted when it was opened, and no edit changes it. -/
theorem Built.isPackageName {edits : List Edit} {u : CompilationUnit} (h : Built edits u) :
    isPackageName u.package = true := by
  induction h with
  | declare h =>
    obtain ⟨e, he, rfl, -⟩ := declare_eq_ok_iff.mp h
    obtain ⟨-, -, hpackage, -⟩ := TypeSpec.declare_eq_ok_iff.mp he
    rw [package, ImportSet.package_addAll]
    exact requirePackageName_eq_ok_iff.mp hpackage
  | edit hu h ih =>
    obtain ⟨t, e, -, -, rfl, -⟩ := edit_eq_ok_iff.mp h
    rwa [package_apply]

end CompilationUnit

namespace Target

/-- The directories that the file of a type lies in, one for each identifier of the package. -/
def directories (t : Target) : List String :=
  if t.unit.package.isEmpty then [] else dottedParts t.unit.package

/-- The name of the file of a target. -/
def fileName (t : Target) : String := t.name ++ ".java"

/-- Whether the package and the name of a target are made of identifiers. -/
structure IsNamed (t : Target) : Prop where
  package : isPackageName t.unit.package = true
  name : isIdentifier t.name = true

variable {t t' : Target}

/-- The path of a file consists of its directories and its name. -/
theorem outputPath_eq (t : Target) :
    t.outputPath = "/".intercalate (t.directories ++ [t.fileName]) := rfl

/-- The directories of a target with legal names are named by identifiers. -/
theorem IsNamed.isIdentifier_of_mem_directories (h : t.IsNamed) {d : String}
    (hd : d ∈ t.directories) : isIdentifier d = true := by
  have hpackage := h.package
  unfold directories at hd
  unfold isPackageName at hpackage
  split at hd
  · exact absurd hd List.not_mem_nil
  · next hempty =>
    rw [Bool.eq_false_iff.mpr hempty, Bool.false_or, List.all_eq_true] at hpackage
    exact hpackage d hd

/-- The directories of a target tell its package. -/
theorem package_eq_intercalate_directories (t : Target) :
    t.unit.package = ".".intercalate t.directories := by
  unfold directories
  split
  · next hempty => exact String.isEmpty_iff.mp hempty
  · exact (intercalate_dottedParts t.unit.package).symm

/-- The path of a target with legal names has plain parts. -/
theorem IsNamed.isPlain (h : t.IsNamed) :
    ∀ part ∈ t.directories ++ [t.fileName], FilePath.IsPlain part := by
  intro part hpart
  rcases List.mem_append.mp hpart with hpart | hpart
  · exact FilePath.isPlain_of_isIdentifier (h.isIdentifier_of_mem_directories hpart)
  · rw [List.mem_singleton.mp hpart]
    exact FilePath.isPlain_append h.name (by decide)

/-- The path of a target with legal names is read back as its parts. -/
theorem IsNamed.ofText_outputPath (h : t.IsNamed) :
    FilePath.ofText t.outputPath = ⟨0, t.directories ++ [t.fileName]⟩ :=
  FilePath.ofText_intercalate (by simp) h.isPlain

/-- Targets with legal names have the same path just if they have the same package and name. -/
theorem IsNamed.outputPath_eq_iff (h : t.IsNamed) (h' : t'.IsNamed) :
    t.outputPath = t'.outputPath ↔ t.unit.package = t'.unit.package ∧ t.name = t'.name := by
  constructor
  · intro heq
    have hparts : FilePath.mk 0 (t.directories ++ [t.fileName]) =
        ⟨0, t'.directories ++ [t'.fileName]⟩ := by
      rw [← h.ofText_outputPath, ← h'.ofText_outputPath, heq]
    obtain ⟨hdirectories, hfile⟩ := List.append_inj' (FilePath.mk.inj hparts).2 rfl
    constructor
    · rw [package_eq_intercalate_directories, hdirectories, ← package_eq_intercalate_directories]
    · have hname := congrArg String.toList (List.cons.inj hfile).1
      rw [fileName, fileName, String.toList_append, String.toList_append] at hname
      exact String.toList_inj.mp (List.append_cancel_right hname)
  · rintro ⟨hpackage, hname⟩
    rw [outputPath, outputPath, hpackage, hname]

/-- A target is at an address just if the session has its type there. -/
theorem find?_eq_some_iff {s : Session} {a : Address} :
    find? s a = some t ↔ s.find? a = some (t.unit, t.type) ∧ t.path = a.path := by
  unfold find?
  rw [Option.map_eq_some_iff]
  constructor
  · rintro ⟨⟨u, v⟩, hfind, rfl⟩
    exact ⟨hfind, rfl⟩
  · rintro ⟨hfind, hpath⟩
    exact ⟨_, hfind, by rw [← hpath]⟩

/-- Package and name of a type were checked when the unit was opened and the type declared. -/
theorem isNamed_of_find? {actions : List Action} {a : Address}
    (h : find? (Session.empty.performAll actions) a = some t) : t.IsNamed := by
  obtain ⟨hfind, -⟩ := find?_eq_some_iff.mp h
  exact ⟨(Session.built_of_getElem? (Session.find?_eq_some_iff.mp hfind).1).isPackageName,
    (Session.invariant_of_find? TypeDecl.invariant_isNamed hfind).header⟩

end Target

namespace Session

/-- The paths of two types are one path just if their packages and their names are the same.  A path
leads through a directory for each identifier of the package, and through none in the default
package, to a file with the name of the type, and all its parts are plain names. -/
theorem output_paths_apart (actions actions' : List Action) (a a' : Address) (t t' : Target)
    (h : Target.find? (empty.performAll actions) a = some t)
    (h' : Target.find? (empty.performAll actions') a' = some t') :
    (t.outputPath = t'.outputPath ↔ t.unit.package = t'.unit.package ∧ t.name = t'.name) ∧
      (∀ d ∈ t.directories, isIdentifier d = true) ∧ isIdentifier t.name = true ∧
      t.unit.package = ".".intercalate t.directories ∧
      t.outputPath = "/".intercalate (t.directories ++ [t.name ++ ".java"]) ∧
      FilePath.ofText t.outputPath = ⟨0, t.directories ++ [t.name ++ ".java"]⟩ ∧
      ∀ part ∈ t.directories ++ [t.name ++ ".java"], FilePath.IsPlain part := by
  have hnamed := Target.isNamed_of_find? h
  exact ⟨hnamed.outputPath_eq_iff (Target.isNamed_of_find? h'),
    fun _ => hnamed.isIdentifier_of_mem_directories, hnamed.name,
    Target.package_eq_intercalate_directories t, Target.outputPath_eq t, hnamed.ofText_outputPath,
    hnamed.isPlain⟩

/-- The classes `Point` of the package `shapes.flat` and of the default package go to two files, the
one two directories deep and the other in none. -/
theorem output_paths_apart_points :
    let point : TypeSpec := { kind := .classType, name := "Point" }
    let s := empty.performAll [.openUnit "shapes.flat" point, .openUnit "" point]
    ∃ t t', Target.find? s ⟨0, []⟩ = some t ∧ Target.find? s ⟨1, []⟩ = some t' ∧
      t.outputPath ≠ t'.outputPath ∧ t.directories = ["shapes", "flat"] ∧ t'.directories = [] ∧
      FilePath.ofText t.outputPath = ⟨0, ["shapes", "flat", "Point.java"]⟩ := by
  intro point s
  have hfound : (Target.find? s ⟨0, []⟩).map (fun t => (t.unit.package, t.directories, t.name)) =
      some ("shapes.flat", ["shapes", "flat"], "Point") := by decide +kernel
  have hfound' : (Target.find? s ⟨1, []⟩).map (fun t => (t.unit.package, t.directories)) =
      some ("", []) := by decide +kernel
  obtain ⟨t, hfind, hpoint⟩ := Option.map_eq_some_iff.mp hfound
  obtain ⟨t', hfind', hpoint'⟩ := Option.map_eq_some_iff.mp hfound'
  simp only [Prod.mk.injEq] at hpoint hpoint'
  obtain ⟨hpackage, hdirectories, hname⟩ := hpoint
  obtain ⟨hpackage', hdirectories'⟩ := hpoint'
  obtain ⟨hsame, -, -, -, -, hread, -⟩ := output_paths_apart _ _ _ _ t t' hfind hfind'
  refine ⟨t, t', hfind, hfind', fun hpath => ?_, hdirectories, hdirectories', ?_⟩
  · have hpackages := (hsame.mp hpath).1
    rw [hpackage, hpackage'] at hpackages
    exact absurd hpackages (by decide)
  · rw [hread, hdirectories, hname]
    rfl

end Session

end JavaScribe
