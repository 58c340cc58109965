import JavaScribe.Source.Basic
import JavaScribe.Proofs.DottedNames
import JavaScribe.Proofs.ImportCoverage

/-!
# The form of import declarations

An import declaration names a package and, after a dot, a type of it, a static member of a type, or
everything.  All the names come from types, packages and members that have been checked, so the
lines of an import section have this form, with one exception: the default package is a legal
package without being a name, and an import that is asked for by itself is not kept from naming it
(`Session.importLines_wellFormed`).  The types that are written import nothing of the default
package.
-/

set_option autoImplicit false

namespace JavaScribe

/-- Whether a name may stand at the end of an import declaration. -/
def IsImportTarget (name : String) : Prop :=
  IsDotted name ∨ name = "*" ∨ ∃ type, IsDotted type ∧ name = type ++ ".*"

/-- Whether a line is an import declaration. -/
def IsImportDeclaration (line : String) : Prop :=
  ∃ (isStatic : Bool) (package target : String), IsDotted package ∧ IsImportTarget target ∧
    line = "import " ++ (if isStatic then "static " else "") ++ package ++ "." ++ target ++ ";"

/-- Where a declaration names a package there cannot be a dot. -/
theorem not_isImportDeclaration_of_dot (rest : String) :
    ¬IsImportDeclaration ("import " ++ "." ++ rest) := by
  rintro ⟨isStatic, package, target, hpackage, -, hline⟩
  obtain ⟨c, cs, hchars, hstart⟩ := hpackage.exists_start
  have hlist := congrArg String.toList hline
  simp only [String.toList_append, hchars] at hlist
  cases isStatic with
  | true => simp at hlist
  | false =>
    have hdot : '.' = c := by
      simp at hlist
      exact hlist.1
    rw [← hdot] at hstart
    revert hstart
    decide

/-- Whether a type can be referred to by its name and package. -/
def TypeName.IsLegal (n : TypeName) : Prop :=
  ∃ t, TypeExpr.reference n.name n.package [] = .ok t

/-- A name is legal if its parts are identifiers and its package is one. -/
theorem TypeName.isLegal_iff {n : TypeName} :
    n.IsLegal ↔ (∀ part ∈ dottedParts n.name, isIdentifier part = true) ∧
      isPackageName n.package = true := by
  unfold IsLegal
  simp only [TypeExpr.reference_eq_ok_iff]
  constructor
  · rintro ⟨-, hname, hpackage, -⟩
    exact ⟨hname, hpackage⟩
  · rintro ⟨hname, hpackage⟩
    exact ⟨_, hname, hpackage, rfl⟩

/-- A legal name is dotted. -/
theorem TypeName.IsLegal.isDotted_name {n : TypeName} (h : n.IsLegal) : IsDotted n.name :=
  isDotted_of_dottedParts (TypeName.isLegal_iff.mp h).1

/-- The outermost type of a legal name is dotted. -/
theorem TypeName.IsLegal.isDotted_outermost {n : TypeName} (h : n.IsLegal) :
    IsDotted n.outermost :=
  isDotted_of_isIdentifier ((TypeName.isLegal_iff.mp h).1 _ n.outermost_mem_dottedParts)

/-- A type that occurs has a package. -/
theorem TypeExpr.Occurs.package_ne {n : TypeName} {t : TypeExpr} (h : t.Occurs n) :
    n.package ≠ "" := by
  induction h with
  | named h => exact h
  | argument _ _ ih => exact ih
  | bound _ ih => exact ih
  | component _ ih => exact ih

/-- Whether what an edit asks to import by itself is given by a legal type, and by the name of a
member or a star, or by the name of a package. -/
def Edit.ImportsByName : Edit → Prop
  | .importEntry _ => False
  | .importType type => ∀ n, type.Occurs n → n.IsLegal
  | .importMember type member => type.IsLegal ∧ (isIdentifier member = true ∨ member = "*")
  | _ => True

namespace ImportEntry

/-- What is imported after some edits, if all they import is given by names. -/
inductive Named (edits : List Edit) : ImportEntry → Prop where
  | mention {n : TypeName} : n.IsLegal → n.package ≠ "" → Named edits (ofTypeName n)
  | package {package : String} : .importPackage package ∈ edits → isPackageName package = true →
      Named edits (wholePackage package)
  | member {n : TypeName} {member : String} : .importMember n member ∈ edits → n.IsLegal →
      isIdentifier member = true ∨ member = "*" → Named edits (ofMember n member)

variable {edits : List Edit} {e : ImportEntry}

/-- What an entry imports is something that can be imported. -/
theorem Named.isImportTarget (h : e.Named edits) : IsImportTarget e.typeName := by
  cases h with
  | mention hn _ => exact .inl hn.isDotted_outermost
  | package _ _ => exact .inr (.inl rfl)
  | @member n member _ hn hmember =>
    rcases hmember with hmember | rfl
    · exact .inl (hn.isDotted_name.append (isDotted_of_isIdentifier hmember))
    · refine .inr (.inr ⟨n.name, hn.isDotted_name, ?_⟩)
      rw [ofMember, String.append_assoc]
      rfl

/-- Every package is named, unless the default package has been asked for. -/
theorem Named.isDotted_package (h : e.Named edits) :
    IsDotted e.package ∨
      (.importPackage "" ∈ edits ∧ e = wholePackage "") ∨
      ∃ n member, .importMember n member ∈ edits ∧ n.package = "" ∧ e = ofMember n member := by
  cases h with
  | mention hn hne =>
    exact .inl (isDotted_of_isPackageName (TypeName.isLegal_iff.mp hn).2 hne)
  | @package package hmem hlegal =>
    by_cases hempty : package = ""
    · subst hempty
      exact .inr (.inl ⟨hmem, rfl⟩)
    · exact .inl (isDotted_of_isPackageName hlegal hempty)
  | @member n member hmem hn _ =>
    by_cases hempty : n.package = ""
    · exact .inr (.inr ⟨n, member, hmem, hempty, rfl⟩)
    · exact .inl (isDotted_of_isPackageName (TypeName.isLegal_iff.mp hn).2 hempty)

/-- A line of the section is empty or that of an entry. -/
theorem mem_linesAfter {prefixes : List String} {last line : String} {es : List ImportEntry}
    (h : line ∈ linesAfter prefixes last es) : line = "" ∨ ∃ e ∈ es, line = e.text := by
  induction es generalizing last with
  | nil => cases h
  | cons e es ih =>
    have hrest : line ∈ linesAfter prefixes (groupOf prefixes e.package) es →
        line = "" ∨ ∃ f ∈ e :: es, line = f.text := by
      intro hline
      rcases ih hline with hline | ⟨f, hf, hline⟩
      · exact .inl hline
      · exact .inr ⟨f, List.mem_cons_of_mem _ hf, hline⟩
    simp only [linesAfter] at h
    split at h
    · rcases List.mem_cons.mp h with hline | hline
      · exact .inr ⟨e, List.mem_cons_self, hline⟩
      · exact hrest hline
    · rcases List.mem_cons.mp h with hline | hline
      · exact .inl hline
      · rcases List.mem_cons.mp hline with hline | hline
        · exact .inr ⟨e, List.mem_cons_self, hline⟩
        · exact hrest hline

/-- The lines of an import section are empty or declare one of its entries. -/
theorem mem_lines {prefixes : List String} {line : String} {es : List ImportEntry}
    (h : line ∈ lines prefixes es) : line = "" ∨ ∃ e ∈ es, line = e.text := by
  cases es with
  | nil => cases h
  | cons e es =>
    rcases List.mem_cons.mp h with hline | hline
    · exact .inr ⟨e, List.mem_cons_self, hline⟩
    · rcases mem_linesAfter hline with hline | ⟨f, hf, hline⟩
      · exact .inl hline
      · exact .inr ⟨f, List.mem_cons_of_mem _ hf, hline⟩

/-- Every entry has its line in the section. -/
theorem text_mem_linesAfter {prefixes : List String} {last : String} {es : List ImportEntry}
    {e : ImportEntry} (h : e ∈ es) : e.text ∈ linesAfter prefixes last es := by
  induction es generalizing last with
  | nil => cases h
  | cons f es ih =>
    have hmem : e.text ∈ f.text :: linesAfter prefixes (groupOf prefixes f.package) es := by
      rcases List.mem_cons.mp h with rfl | he
      · exact List.mem_cons_self
      · exact List.mem_cons_of_mem _ (ih he)
    simp only [linesAfter]
    split
    · exact hmem
    · exact List.mem_cons_of_mem _ hmem

/-- Every entry of an import section is declared on a line. -/
theorem text_mem_lines {prefixes : List String} {es : List ImportEntry} {e : ImportEntry}
    (h : e ∈ es) : e.text ∈ lines prefixes es := by
  cases es with
  | nil => cases h
  | cons f es =>
    rcases List.mem_cons.mp h with rfl | he
    · exact List.mem_cons_self
    · exact List.mem_cons_of_mem _ (text_mem_linesAfter he)

end ImportEntry

namespace CompilationUnit

variable {edits : List Edit} {u : CompilationUnit}

/-- Static imports are asked for by themselves. -/
theorem Built.explicit_of_isStatic (h : Built edits u) {e : ImportEntry}
    (he : e ∈ u.imports.entries) (hstatic : e.isStatic = true) :
    e ∈ edits.flatMap Edit.explicitEntries := by
  have hmention : ∀ ns : List TypeName, e ∉ importsOf ns := by
    intro ns hmem
    obtain ⟨n, -, rfl⟩ := List.mem_map.mp hmem
    cases hstatic
  induction h with
  | declare h =>
    obtain ⟨es, himports, hes⟩ := mem_imports_of_declare h
    rw [himports] at he
    rcases ImportSet.mem_or_mem_of_mem_addAll he with he | he
    · cases he
    · obtain ⟨-, -, n, -, rfl⟩ := (hes e).mp he
      cases hstatic
  | edit hu h ih =>
    obtain ⟨t, effect, added, rfl, hadds, -⟩ := exists_adds_of_edit hu.coherent h
    rw [List.flatMap_append, List.flatMap_singleton]
    rcases ImportSet.mem_or_mem_of_mem_addAll he with he | he
    · exact List.mem_append_left _ (ih he)
    · rcases (hadds.imports e).mp he with he | he
      · exact absurd he (hmention _)
      · exact List.mem_append_right _ he

/-- A package that an accepted edit imports has a legal name. -/
theorem Built.isPackageName_of_mem (h : Built edits u) {package : String}
    (hmem : .importPackage package ∈ edits) : isPackageName package = true := by
  induction h with
  | declare h => cases hmem
  | edit hu h ih =>
    rcases List.mem_append.mp hmem with hmem | hmem
    · exact ih hmem
    · obtain rfl := List.mem_singleton.mp hmem
      obtain ⟨t, effect, -, heffect, -⟩ := edit_eq_ok_iff.mp h
      simp only [TypeDecl.edit, except_bind_eq_ok_iff, except_mapError_eq_ok_iff] at heffect
      obtain ⟨_, hname, -⟩ := heffect
      exact requirePackageName_eq_ok_iff.mp hname

/-- What a unit imports is given by names, if its written types are legal and everything else is
asked for by name. -/
theorem Built.named (h : Built edits u)
    (hwritten : ∀ x ∈ u.root.written, ∀ n, x.Occurs n → n.IsLegal)
    (hedits : ∀ ed ∈ edits, ed.ImportsByName) {e : ImportEntry} (he : e ∈ u.imports.entries) :
    e.Named edits := by
  have hexplicit : e ∈ edits.flatMap Edit.explicitEntries → e.Named edits := by
    intro hmem
    obtain ⟨ed, hed, hentry⟩ := List.mem_flatMap.mp hmem
    have hnames : ed.ImportsByName := hedits ed hed
    cases ed with
    | importEntry entry => exact hnames.elim
    | importType type =>
      obtain ⟨n, hn, rfl⟩ := List.mem_map.mp hentry
      have hoccurs : type.Occurs n := (TypeExpr.mem_mentions_iff n type).mp hn
      exact .mention (hnames n hoccurs) hoccurs.package_ne
    | importMember type member =>
      obtain rfl := List.mem_singleton.mp hentry
      exact .member hed hnames.1 hnames.2
    | importPackage package =>
      obtain rfl := List.mem_singleton.mp hentry
      exact .package hed (h.isPackageName_of_mem hed)
    | _ => cases hentry
  cases hstatic : e.isStatic with
  | true => exact hexplicit (h.explicit_of_isStatic he hstatic)
  | false =>
    rcases h.accounted e he hstatic with hmem | ⟨x, hx, n, hn, rfl⟩
    · exact hexplicit hmem
    · exact .mention (hwritten x hx n hn) hn.package_ne

/-- What is listed is given by names, or it is a package that has one. -/
theorem Built.listed (h : Built edits u)
    (hwritten : ∀ x ∈ u.root.written, ∀ n, x.Occurs n → n.IsLegal)
    (hedits : ∀ ed ∈ edits, ed.ImportsByName) {threshold : Int} {implicit : List String}
    {e : ImportEntry} (he : e ∈ u.imports.resolve threshold implicit) :
    e.Named edits ∨ ∃ package, IsDotted package ∧ e = .wholePackage package := by
  rcases (ImportEntry.mem_resolve _ _).mp he with ⟨package, hcrowded, rfl⟩ | ⟨hmem, -⟩
  · -- a package becomes crowded by types that are mentioned, and these are in a named package
    obtain ⟨⟨f, hf, hordinary, rfl⟩, -⟩ := (ImportEntry.mem_crowdedPackages _ _).mp hcrowded
    simp only [ImportEntry.isOrdinary, Bool.and_eq_true, Bool.not_eq_true'] at hordinary
    obtain ⟨⟨hstatic, hwildcard⟩, -⟩ := hordinary
    refine .inr ⟨f.package, ?_, rfl⟩
    cases h.named hwritten hedits hf with
    | mention hn hpackage =>
      exact isDotted_of_isPackageName (TypeName.isLegal_iff.mp hn).2 hpackage
    | package _ _ => cases hwildcard
    | member _ _ _ => cases hstatic
  · exact .inl (h.named hwritten hedits hmem)

end CompilationUnit

namespace Session

/-- Of a unit that is reached, whose written types are legal and whose other imports are given by
legal types, members and packages, every line of the import section that is not empty is an import
declaration, or it is one of the two that name no package because the default package has been asked
for: as a whole, or as that of the type of a static import. -/
theorem importLines_wellFormed (actions : List Action) (i : Nat) (u : CompilationUnit)
    (hu : (empty.performAll actions).units[i]? = some u)
    (hwritten : ∀ x ∈ u.root.written, ∀ n, x.Occurs n → n.IsLegal)
    (hedits : ∀ ed ∈ acceptedEdits i empty actions, ed.ImportsByName) (settings : Settings) :
    ∀ line ∈ settings.importLines u, line ≠ "" →
      IsImportDeclaration line ∨
        (.importPackage "" ∈ acceptedEdits i empty actions ∧ line = "import .*;") ∨
        ∃ n member, .importMember n member ∈ acceptedEdits i empty actions ∧ n.package = "" ∧
          line = "import static ." ++ n.name ++ "." ++ member ++ ";" := by
  intro line hline hne
  have hbuilt := built_of_getElem? hu
  obtain hempty | ⟨e, he, rfl⟩ := ImportEntry.mem_lines hline
  · exact absurd hempty hne
  rcases hbuilt.listed hwritten hedits he with hnamed | ⟨package, hpackage, rfl⟩
  · rcases hnamed.isDotted_package with hpackage | ⟨hmem, rfl⟩ | ⟨n, member, hmem, hempty, rfl⟩
    · exact .inl ⟨e.isStatic, e.package, e.typeName, hpackage, hnamed.isImportTarget, rfl⟩
    · exact .inr (.inl ⟨hmem, rfl⟩)
    · refine .inr (.inr ⟨n, member, hmem, hempty, ?_⟩)
      simp only [ImportEntry.text, ImportEntry.ofMember, hempty, if_true]
      simp only [← String.toList_inj, String.toList_append, List.append_assoc]
      rfl
  · exact .inl ⟨false, package, "*", hpackage, .inr (.inl rfl), rfl⟩

/-- A static import of all members, beside one of the default package, is an import declaration. -/
theorem importLines_wellFormed_point :
    let settings : Settings :=
      ⟨4, false, "\n", 5, ["java.lang"], ["java.", "javax."], 160, .string ""⟩
    let actions : List Action := [.openUnit "shapes" { kind := .classType, name := "Point" },
      .edit ⟨0, []⟩ (.importMember ⟨"java.lang", "Math"⟩ "*"),
      .edit ⟨0, []⟩ (.field { type := .named "Map.Entry" "java.util" [] false, name := "pair" }),
      .edit ⟨0, []⟩ (.importPackage "")]
    ∃ u, (empty.performAll actions).units[0]? = some u ∧
      "import static java.lang.Math.*;" ∈ settings.importLines u ∧
      IsImportDeclaration "import static java.lang.Math.*;" := by
  intro settings actions
  have hunit : ((empty.performAll actions).units[0]?).map
        (fun u => (u.root.written, u.imports.entries)) =
      some ([.named "Map.Entry" "java.util" [] false], [⟨"java.lang", "Math.*", true, false⟩,
        ⟨"java.util", "Map", false, false⟩, ⟨"", "*", false, true⟩]) := rfl
  have haccepted : acceptedEdits 0 empty actions =
      [.importMember ⟨"java.lang", "Math"⟩ "*",
        .field { type := .named "Map.Entry" "java.util" [] false, name := "pair" },
        .importPackage ""] := rfl
  obtain ⟨u, hu, hshape⟩ := Option.map_eq_some_iff.mp hunit
  obtain ⟨hwritten, hentries⟩ := Prod.mk.inj hshape
  have hmath : TypeName.IsLegal ⟨"java.lang", "Math"⟩ :=
    TypeName.isLegal_iff.mpr ⟨by decide +kernel, by decide +kernel⟩
  have hlegal : ∀ x ∈ u.root.written, ∀ n, x.Occurs n → n.IsLegal := by
    intro x hx n hn
    rw [hwritten, List.mem_singleton] at hx
    rw [hx, ← TypeExpr.mem_mentions_iff] at hn
    obtain rfl := List.mem_singleton.mp hn
    exact TypeName.isLegal_iff.mpr ⟨by decide +kernel, by decide +kernel⟩
  have hnames : ∀ ed ∈ acceptedEdits 0 empty actions, ed.ImportsByName := by
    rw [haccepted]
    intro ed hed
    simp only [List.mem_cons, List.not_mem_nil, or_false] at hed
    rcases hed with rfl | rfl | rfl
    · exact ⟨hmath, .inr rfl⟩
    · trivial
    · trivial
  have hlisted : (⟨"java.lang", "Math.*", true, false⟩ : ImportEntry) ∈
      u.imports.resolve settings.wildcardThreshold settings.implicitPackages := by
    rw [ImportSet.resolve, ImportEntry.mem_resolve, hentries]
    exact .inr ⟨List.mem_cons_self, .inl rfl⟩
  have hline : "import static java.lang.Math.*;" ∈ settings.importLines u :=
    ImportEntry.text_mem_lines hlisted
  refine ⟨u, hu, hline, ?_⟩
  rcases importLines_wellFormed actions 0 u hu hlegal hnames settings _ hline (by decide) with
    h | ⟨-, h⟩ | ⟨n, member, hmem, hempty, -⟩
  · exact h
  · exact absurd h (by decide)
  · rw [haccepted] at hmem
    simp only [List.mem_cons, Edit.importMember.injEq, List.not_mem_nil, or_false,
      reduceCtorEq] at hmem
    rw [hmem.1] at hempty
    exact absurd hempty (by decide)

/-- The default package can be asked for as a whole, and what is written then is no import
declaration. -/
theorem importLine_of_default_package :
    let settings : Settings :=
      ⟨4, false, "\n", 5, ["java.lang"], ["java.", "javax."], 160, .string ""⟩
    let actions : List Action := [.openUnit "shapes" { kind := .classType, name := "Point" },
      .edit ⟨0, []⟩ (.importPackage "")]
    ∃ u, (empty.performAll actions).units[0]? = some u ∧ u.root.written = [] ∧
      (∀ ed ∈ acceptedEdits 0 empty actions, ed.ImportsByName) ∧
      "import .*;" ∈ settings.importLines u ∧ ¬IsImportDeclaration "import .*;" := by
  intro settings actions
  have hunit : ((empty.performAll actions).units[0]?).map
      (fun u => (u.root.written, u.imports.entries)) = some ([], [.wholePackage ""]) := rfl
  have haccepted : acceptedEdits 0 empty actions = [.importPackage ""] := rfl
  obtain ⟨u, hu, hshape⟩ := Option.map_eq_some_iff.mp hunit
  obtain ⟨hwritten, hentries⟩ := Prod.mk.inj hshape
  have hnames : ∀ ed ∈ acceptedEdits 0 empty actions, ed.ImportsByName := by
    intro ed hed
    rw [haccepted, List.mem_singleton] at hed
    rw [hed]
    trivial
  have hlisted : ImportEntry.wholePackage "" ∈
      u.imports.resolve settings.wildcardThreshold settings.implicitPackages := by
    rw [ImportSet.resolve, ImportEntry.mem_resolve, hentries]
    exact .inr ⟨List.mem_cons_self, .inr (by decide)⟩
  exact ⟨u, hu, hwritten, hnames, ImportEntry.text_mem_lines hlisted,
    not_isImportDeclaration_of_dot "*;"⟩

end Session

end JavaScribe
