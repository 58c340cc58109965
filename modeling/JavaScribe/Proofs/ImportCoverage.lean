import JavaScribe.Proofs.ImportListings
import JavaScribe.Proofs.ReachableSession
import JavaScribe.Proofs.WrittenTypes

/-!
# Imports cover what is written

Whatever type is written anywhere in a unit is imported, and nothing else is, but for what was asked
for explicitly.  Two things can take an entry away again: the import of a whole package, when it is
added, takes the place of the single imports of the package, and a crowded package is imported as a
whole when the section is resolved.  Either way the types stay covered.

`CompilationUnit.Covered` and `CompilationUnit.Accounted` are the two invariants.  They hold of the
set of imports, and an edit keeps them because what it imports is what it adds to the written types
(`TypeDecl.exists_adds_of_edit`).
-/

set_option autoImplicit false

namespace JavaScribe

/-- Whether an entry, if it is a wildcard and not static, is the import of a whole package. -/
def ImportEntry.IsPlain (e : ImportEntry) : Prop :=
  e.isStatic = false → e.wildcard = true → e = wholePackage e.package

/-- The import of a single type is no wildcard, so it is plain. -/
theorem ImportEntry.IsSingle.isPlain {e : ImportEntry} (h : e.IsSingle) : e.IsPlain := by
  intro _ hwildcard
  rw [h.2] at hwildcard
  cases hwildcard

namespace ImportSet

/-- Whether a named type needs no import, or has one in the set. -/
def Covers (s : ImportSet) (n : TypeName) : Prop :=
  n.package = s.package ∨ ImportEntry.ofTypeName n ∈ s.entries ∨
    ImportEntry.wholePackage n.package ∈ s.entries

/-- What is covered stays so when a plain entry is added: if the entry removes the import of the
type, it takes its place. -/
theorem Covers.add {s : ImportSet} {n : TypeName} (h : s.Covers n) {e : ImportEntry}
    (he : e.IsPlain) : (s.add e).Covers n := by
  -- an entry of the package stays, or the entry that removes it is the import of the package
  have hkept : ∀ f ∈ s.entries, f.package = n.package →
      f ∈ (s.add e).entries ∨ ImportEntry.wholePackage n.package ∈ (s.add e).entries := by
    intro f hf hpackage
    rw [mem_add, mem_add]
    by_cases hgone : s.accepts e = true ∧ e.Displaces f
    · obtain ⟨haccepts, hstatic, hwildcard, -, hsame⟩ := hgone
      have hwhole : e = ImportEntry.wholePackage n.package := by
        rw [← hpackage, hsame]
        exact he hstatic hwildcard
      exact .inr (.inr ⟨haccepts, hwhole.symm⟩)
    · exact .inl (.inl ⟨hf, hgone⟩)
  unfold Covers
  rw [package_add]
  rcases h with h | h | h
  · exact .inl h
  · exact .inr (hkept _ h rfl)
  · rcases hkept _ h rfl with h' | h'
    · exact .inr (.inr h')
    · exact .inr (.inr h')

/-- After the import of a type was added, the type is covered. -/
theorem covers_add_ofTypeName (s : ImportSet) (n : TypeName) :
    (s.add (.ofTypeName n)).Covers n := by
  have hsingle := ImportEntry.isSingle_ofTypeName n
  unfold Covers
  rw [package_add, mem_add, mem_add]
  by_cases hpackage : n.package = s.package
  · exact .inl hpackage
  by_cases hwhole : ImportEntry.wholePackage n.package ∈ s.entries
  · exact .inr (.inr (.inl ⟨hwhole, fun h => hsingle.not_displaces _ h.2⟩))
  · have haccepts : s.accepts (.ofTypeName n) = true := by
      simp [accepts, ImportEntry.ofTypeName, hpackage, hwhole]
    exact .inr (.inl (.inr ⟨haccepts, rfl⟩))

/-- What is covered stays so when plain entries are added. -/
theorem Covers.addAll {s : ImportSet} {n : TypeName} (h : s.Covers n) {es : List ImportEntry}
    (hes : ∀ e ∈ es, e.IsPlain) : (s.addAll es).Covers n := by
  induction es generalizing s with
  | nil => exact h
  | cons e es ih =>
    exact ih (h.add (hes e List.mem_cons_self)) fun e' he' => hes e' (List.mem_cons_of_mem _ he')

/-- A type is covered when its import is among plain entries that have been added. -/
theorem covers_addAll_of_mem {s : ImportSet} {n : TypeName} {es : List ImportEntry}
    (hes : ∀ e ∈ es, e.IsPlain) (hn : ImportEntry.ofTypeName n ∈ es) : (s.addAll es).Covers n := by
  induction es generalizing s with
  | nil => cases hn
  | cons e es ih =>
    have hrest : ∀ e' ∈ es, e'.IsPlain := fun e' he' => hes e' (List.mem_cons_of_mem _ he')
    rcases List.mem_cons.mp hn with hhead | htail
    · subst hhead
      exact Covers.addAll (covers_add_ofTypeName s n) hrest
    · exact ih hrest htail

end ImportSet

namespace CompilationUnit

/-- Whether everything that occurs in a written type is covered by the imports. -/
def Covered (u : CompilationUnit) : Prop :=
  ∀ x ∈ u.root.written, ∀ n, x.Occurs n → u.imports.Covers n

/-- Whether every import that is not static is one of the explicit entries, or is for a type that
occurs in a written one. -/
def Accounted (u : CompilationUnit) (explicit : List ImportEntry) : Prop :=
  ∀ e ∈ u.imports.entries, e.isStatic = false →
    e ∈ explicit ∨ ∃ x ∈ u.root.written, ∃ n, x.Occurs n ∧ e = .ofTypeName n

/-- What the mention of types needs is plain. -/
theorem isPlain_of_mem_importsOf {ns : List TypeName} {e : ImportEntry} (h : e ∈ importsOf ns) :
    e.IsPlain := by
  obtain ⟨n, -, rfl⟩ := List.mem_map.mp h
  exact (ImportEntry.isSingle_ofTypeName n).isPlain

/-- An effect that adds to what is written keeps it covered. -/
theorem Covered.apply {u : CompilationUnit} (h : u.Covered) {path : List String} {t : TypeDecl}
    {e : Effect} {added : List TypeExpr} {explicit : List ImportEntry}
    (hadds : e.Adds t added explicit) (hplain : ∀ f ∈ explicit, f.IsPlain)
    (hwritten : ∀ x, x ∈ (u.apply path e).root.written ↔ x ∈ u.root.written ∨ x ∈ added) :
    (u.apply path e).Covered := by
  have himports : ∀ f ∈ e.imports, f.IsPlain := by
    intro f hf
    rcases (hadds.imports f).mp hf with hf | hf
    · exact isPlain_of_mem_importsOf hf
    · exact hplain f hf
  intro x hx n hn
  rcases (hwritten x).mp hx with hx | hx
  · exact (h x hx n hn).addAll himports
  · refine ImportSet.covers_addAll_of_mem himports ((hadds.imports _).mpr (.inl ?_))
    exact List.mem_map_of_mem ((TypeExpr.mem_mentionsAll_iff n added).mpr ⟨x, hx, hn⟩)

/-- An effect that adds to what is written keeps the imports accounted for. -/
theorem Accounted.apply {u : CompilationUnit} {before : List ImportEntry}
    (h : u.Accounted before) {path : List String} {t : TypeDecl} {e : Effect}
    {added : List TypeExpr} {explicit : List ImportEntry} (hadds : e.Adds t added explicit)
    (hwritten : ∀ x, x ∈ (u.apply path e).root.written ↔ x ∈ u.root.written ∨ x ∈ added) :
    (u.apply path e).Accounted (before ++ explicit) := by
  intro f hf hstatic
  rcases ImportSet.mem_or_mem_of_mem_addAll hf with hf | hf
  · rcases h f hf hstatic with hf | ⟨x, hx, hn⟩
    · exact .inl (List.mem_append_left _ hf)
    · exact .inr ⟨x, (hwritten x).mpr (.inl hx), hn⟩
  · rcases (hadds.imports f).mp hf with hf | hf
    · obtain ⟨n, hn, rfl⟩ := List.mem_map.mp hf
      obtain ⟨x, hx, hn⟩ := (TypeExpr.mem_mentionsAll_iff n added).mp hn
      exact .inr ⟨x, (hwritten x).mpr (.inr hx), n, hn, rfl⟩
    · exact .inl (List.mem_append_right _ hf)

/-- An accepted edit adds the same types to the tree as to the type that it is an edit of. -/
theorem exists_adds_of_edit {u v : CompilationUnit} {path : List String} {ed : Edit} {log : Log}
    (hu : u.root.Coherent) (h : u.edit path ed = .ok (v, log)) :
    ∃ t e added, v = u.apply path e ∧ Effect.Adds e t added ed.explicitEntries ∧
      ∀ x, x ∈ (u.apply path e).root.written ↔ x ∈ u.root.written ∨ x ∈ added := by
  obtain ⟨t, e, hfind, he, rfl, -⟩ := edit_eq_ok_iff.mp h
  obtain ⟨added, hadds⟩ := TypeDecl.exists_adds_of_edit he
  exact ⟨t, e, added, rfl, hadds, (hu.replaced e.type hfind).mem_written hadds.written⟩

/-- The imports of a unit that was just opened are those of the types that its type is declared
with. -/
theorem mem_imports_of_declare {package : String} {spec : TypeSpec} {u : CompilationUnit}
    {log : Log} (h : declare package spec = .ok (u, log)) :
    ∃ es, u.imports = (ImportSet.empty package).addAll es ∧
      ∀ f, f ∈ es ↔ ∃ x ∈ u.root.written, ∃ n, x.Occurs n ∧ f = .ofTypeName n := by
  obtain ⟨e, he, rfl, -⟩ := declare_eq_ok_iff.mp h
  obtain ⟨-, -, -, category, accepted, -, -, rfl⟩ := TypeSpec.declare_eq_ok_iff.mp he
  refine ⟨_, rfl, fun f => ?_⟩
  have hwritten : TypeDecl.written ⟨spec.header category accepted.emitted, [], []⟩ =
      (spec.header category accepted.emitted).written := List.append_nil _
  rw [mem_importsOf_congr (fun n => TypeSpec.mem_mentions_iff), hwritten, importsOf, List.mem_map]
  simp only [TypeExpr.mem_mentionsAll_iff]
  constructor
  · rintro ⟨n, ⟨x, hx, hn⟩, rfl⟩
    exact ⟨x, hx, n, hn, rfl⟩
  · rintro ⟨x, hx, n, hn, rfl⟩
    exact ⟨n, ⟨x, hx, hn⟩, rfl⟩

/-- Everything that is written in a unit is covered, if the explicit entries are plain. -/
theorem Built.covered {edits : List Edit} {u : CompilationUnit} (h : Built edits u)
    (hplain : ∀ ed ∈ edits, ∀ e ∈ ed.explicitEntries, e.IsPlain) : u.Covered := by
  induction h with
  | declare h =>
    obtain ⟨es, himports, hes⟩ := mem_imports_of_declare h
    intro x hx n hn
    rw [himports]
    refine ImportSet.covers_addAll_of_mem ?_ ((hes _).mpr ⟨x, hx, n, hn, rfl⟩)
    intro f hf
    obtain ⟨-, -, n, -, rfl⟩ := (hes f).mp hf
    exact (ImportEntry.isSingle_ofTypeName n).isPlain
  | @edit edits u v path ed log hu h ih =>
    obtain ⟨t, e, added, rfl, hadds, hwritten⟩ := exists_adds_of_edit hu.coherent h
    have hbefore := ih fun ed' hed' => hplain ed' (List.mem_append_left _ hed')
    exact hbefore.apply hadds (hplain ed (List.mem_append_right _ List.mem_cons_self)) hwritten

/-- The imports of a unit are accounted for by its types and the explicit entries. -/
theorem Built.accounted {edits : List Edit} {u : CompilationUnit} (h : Built edits u) :
    u.Accounted (edits.flatMap Edit.explicitEntries) := by
  induction h with
  | declare h =>
    obtain ⟨es, himports, hes⟩ := mem_imports_of_declare h
    intro f hf _
    rw [himports] at hf
    rcases ImportSet.mem_or_mem_of_mem_addAll hf with hf | hf
    · cases hf
    · exact .inr ((hes f).mp hf)
  | @edit edits u v path ed log hu h ih =>
    obtain ⟨t, e, added, rfl, hadds, hwritten⟩ := exists_adds_of_edit hu.coherent h
    rw [List.flatMap_append, List.flatMap_singleton]
    exact ih.apply hadds hwritten

/-- A unit never imports from its own package, other than static members. -/
theorem Built.sparesOwnPackage {edits : List Edit} {u : CompilationUnit} (h : Built edits u) :
    u.imports.SparesOwnPackage := by
  induction h with
  | declare h =>
    obtain ⟨es, himports, -⟩ := mem_imports_of_declare h
    rw [himports]
    refine ImportSet.SparesOwnPackage.addAll ?_ es
    intro f hf
    cases hf
  | edit hu h ih =>
    obtain ⟨t, e, added, rfl, -, -⟩ := exists_adds_of_edit hu.coherent h
    exact ih.addAll e.imports

end CompilationUnit

namespace ImportSet

/-- A type that is covered by a set is covered by its import section, unless it needs no import. -/
theorem Covers.mem_resolve {s : ImportSet} {n : TypeName} (h : s.Covers n)
    (hpackage : n.package ≠ s.package) {implicit : List String} (himplicit : n.package ∉ implicit)
    (threshold : Int) :
    .ofTypeName n ∈ s.resolve threshold implicit ∨
      .wholePackage n.package ∈ s.resolve threshold implicit := by
  unfold resolve
  rw [ImportEntry.mem_resolve, ImportEntry.mem_resolve]
  by_cases hcrowded : n.package ∈ ImportEntry.crowdedPackages threshold implicit s.entries
  · exact .inr (.inl ⟨_, hcrowded, rfl⟩)
  · rcases h with h | h | h
    · exact absurd h hpackage
    · exact .inl (.inr ⟨h, .inr ⟨himplicit, hcrowded⟩⟩)
    · exact .inr (.inr ⟨h, .inr ⟨himplicit, hcrowded⟩⟩)

end ImportSet

namespace Session

/-- Of a unit that is reached, whose explicit wildcards are imports of whole packages, the import
section covers every type that occurs in a written one and is neither of the unit's own package nor
of an implicit one.  Conversely, every entry that is not static is explicit, or is for a type that
occurs in a written one, or is for a whole package of which more types are imported than the
threshold allows; and it is neither of the own package nor of an implicit one. -/
theorem imports_cover_written (actions : List Action) (i : Nat) (u : CompilationUnit)
    (hu : (empty.performAll actions).units[i]? = some u)
    (hplain : ∀ ed ∈ acceptedEdits i empty actions, ∀ e ∈ ed.explicitEntries,
      e.isStatic = false → e.wildcard = true → e = .wholePackage e.package)
    (threshold : Int) (implicit : List String) :
    (∀ x ∈ u.root.written, ∀ n, x.Occurs n → n.package ≠ u.package → n.package ∉ implicit →
      .ofTypeName n ∈ u.imports.resolve threshold implicit ∨
        .wholePackage n.package ∈ u.imports.resolve threshold implicit) ∧
    ∀ e ∈ u.imports.resolve threshold implicit, e.isStatic = false →
      e.package ≠ u.package ∧ e.package ∉ implicit ∧
        ((∃ ed ∈ acceptedEdits i empty actions, e ∈ ed.explicitEntries) ∨
          (∃ x ∈ u.root.written, ∃ n, x.Occurs n ∧ e = .ofTypeName n) ∨
          e = .wholePackage e.package ∧
            threshold < ImportEntry.ordinaryCount implicit u.imports.entries e.package) := by
  have hbuilt := built_of_getElem? hu
  constructor
  · intro x hx n hn hpackage himplicit
    exact (hbuilt.covered hplain x hx n hn).mem_resolve hpackage himplicit threshold
  · intro e he hstatic
    rcases (ImportEntry.mem_resolve threshold implicit).mp he with ⟨p, hp, rfl⟩ | ⟨hmem, hkept⟩
    -- the whole package is listed for the sake of entries such as `f`, which tell where it is
    · obtain ⟨⟨f, hf, hordinary, rfl⟩, hcount⟩ :=
        (ImportEntry.mem_crowdedPackages threshold implicit).mp hp
      have hsingle : f.isStatic = false := by
        simp only [ImportEntry.isOrdinary, Bool.and_eq_true, Bool.not_eq_true'] at hordinary
        exact hordinary.1.1
      exact ⟨hbuilt.sparesOwnPackage f hf hsingle,
        ImportEntry.not_mem_implicit_of_mem_crowdedPackages threshold implicit hp,
        .inr (.inr ⟨rfl, hcount⟩)⟩
    · have himplicit : e.package ∉ implicit := by
        rcases hkept with hkept | hkept
        · rw [hstatic] at hkept
          cases hkept
        · exact hkept.1
      refine ⟨hbuilt.sparesOwnPackage e hmem hstatic, himplicit, ?_⟩
      rcases hbuilt.accounted e hmem hstatic with h | h
      · exact .inl (List.mem_flatMap.mp h)
      · exact .inr (.inl h)

/-- A file is imported that occurs in the type of a field, also beside a package that is imported
as a whole. -/
theorem imports_cover_written_file :
    let actions : List Action := [.openUnit "shapes" { kind := .classType, name := "Point" },
      .edit ⟨0, []⟩ (.importPackage "java.util"),
      .edit ⟨0, []⟩ (.field
        { type := .named "List" "java.util" [.named "File" "java.io" [] false] false
          name := "sources" })]
    ∃ u, (empty.performAll actions).units[0]? = some u ∧
      (acceptedEdits 0 empty actions).flatMap Edit.explicitEntries =
        [.wholePackage "java.util"] ∧
      (.ofTypeName ⟨"java.io", "File"⟩ ∈ u.imports.resolve 5 ["java.lang"] ∨
        .wholePackage "java.io" ∈ u.imports.resolve 5 ["java.lang"]) := by
  intro actions
  have hunit : ((empty.performAll actions).units[0]?).map (fun u => (u.root.written, u.package)) =
      some ([.named "List" "java.util" [.named "File" "java.io" [] false] false], "shapes") := rfl
  obtain ⟨u, hu, hwritten⟩ := Option.map_eq_some_iff.mp hunit
  obtain ⟨hwritten, hpackage⟩ := Prod.mk.inj hwritten
  have hexplicit : (acceptedEdits 0 empty actions).flatMap Edit.explicitEntries =
      [.wholePackage "java.util"] := rfl
  have hplain : ∀ ed ∈ acceptedEdits 0 empty actions, ∀ e ∈ ed.explicitEntries,
      e.isStatic = false → e.wildcard = true → e = .wholePackage e.package := by
    intro ed hed e he _ _
    have hmem := List.mem_flatMap.mpr ⟨ed, hed, he⟩
    rw [hexplicit, List.mem_singleton] at hmem
    rw [hmem]
    rfl
  have hoccurs : (TypeExpr.named "List" "java.util" [.named "File" "java.io" [] false] false).Occurs
      ⟨"java.io", "File"⟩ :=
    .argument List.mem_cons_self (.named (by decide))
  refine ⟨u, hu, hexplicit, ?_⟩
  exact (imports_cover_written actions 0 u hu hplain 5 ["java.lang"]).1 _
    (hwritten ▸ List.mem_cons_self) _ hoccurs (by rw [hpackage]; decide) (by decide)

/-- Not every import that is listed has been asked for explicitly: that of the type of a field has
not. -/
theorem import_not_explicit_of_field :
    let actions : List Action := [.openUnit "shapes" { kind := .classType, name := "Point" },
      .edit ⟨0, []⟩ (.field { type := .named "List" "java.util" [] false, name := "tags" })]
    ∃ u, (empty.performAll actions).units[0]? = some u ∧
      ¬∀ e ∈ u.imports.resolve 5 ["java.lang"], e.isStatic = false →
        ∃ ed ∈ acceptedEdits 0 empty actions, e ∈ ed.explicitEntries := by
  intro actions
  have hunit : ((empty.performAll actions).units[0]?).map (fun u => u.imports.entries) =
      some [⟨"java.util", "List", false, false⟩] := rfl
  obtain ⟨u, hu, hentries⟩ := Option.map_eq_some_iff.mp hunit
  have hexplicit : (acceptedEdits 0 empty actions).flatMap Edit.explicitEntries = [] := rfl
  refine ⟨u, hu, fun h => ?_⟩
  have hlisted : (⟨"java.util", "List", false, false⟩ : ImportEntry) ∈
      u.imports.resolve 5 ["java.lang"] := by
    rw [ImportSet.resolve, ImportEntry.mem_resolve, hentries]
    exact .inr ⟨List.mem_cons_self, .inr (by decide)⟩
  obtain ⟨ed, hed, he⟩ := h _ hlisted rfl
  have hmem := List.mem_flatMap.mpr ⟨ed, hed, he⟩
  rw [hexplicit] at hmem
  cases hmem

end Session

end JavaScribe
