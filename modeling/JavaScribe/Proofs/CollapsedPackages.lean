import JavaScribe.Proofs.ImportCollection
import JavaScribe.Proofs.ImportSections

/-!
# Collapsed packages

There are two ways to import a package as a whole: the import of it is added to the set, where it
takes the place of single imports at once, or there are more single imports than the threshold
allows when the section is resolved.  They come to the same
(`ImportSet.resolve_add_wholePackage_iff`), and nothing is left to collapse in a section, so that a
set of what it lists has this section again (`ImportSet.resolve_of_perm_resolve`).

The two ways differ for a package of which no type is imported singly.  None is more than a negative
threshold, and still only the import that was added is listed.
-/

set_option autoImplicit false

namespace JavaScribe

namespace ImportSet

open ImportEntry

variable {s t : ImportSet} {threshold : Int} {implicit : List String}

section Sections

/-- The sections of regular sets are the same if they list the same entries. -/
theorem resolve_eq_iff (hs : ∀ e ∈ s.entries, e.IsRegular) (ht : ∀ e ∈ t.entries, e.IsRegular) :
    t.resolve threshold implicit = s.resolve threshold implicit ↔
      ∀ e, e ∈ t.resolve threshold implicit ↔ e ∈ s.resolve threshold implicit := by
  refine ⟨fun h e => by rw [h], fun h => ?_⟩
  exact eq_of_listedBefore (pairwise_listedBefore_resolve threshold implicit t.nodup ht)
    (pairwise_listedBefore_resolve threshold implicit s.nodup hs) h

/-- What a section lists is in the set or the import of a crowded package. -/
theorem mem_or_crowded_of_mem_resolve {e : ImportEntry} (h : e ∈ s.resolve threshold implicit) :
    e ∈ s.entries ∨ e = wholePackage e.package ∧ s.IsCrowded threshold e.package := by
  rcases (mem_resolve threshold implicit).mp h with ⟨package, hcrowded, rfl⟩ | ⟨he, -⟩
  · have himplicit := not_mem_implicit_of_mem_crowdedPackages threshold implicit hcrowded
    exact .inr ⟨rfl, (mem_crowdedPackages_iff himplicit).mp hcrowded⟩
  · exact .inl he

/-- If the entries of a set have consistent flags, so have those of its section. -/
theorem isRegular_of_mem_resolve (hs : ∀ e ∈ s.entries, e.IsRegular) :
    ∀ e ∈ s.resolve threshold implicit, e.IsRegular := by
  intro e he
  rcases mem_or_crowded_of_mem_resolve he with he | ⟨he, -⟩
  · exact hs e he
  · rw [he]
    exact isRegular_wholePackage e.package

/-- If a set spares its own package, that package is never crowded. -/
theorem IsCrowded.package_ne (h : s.SparesOwnPackage) {package : String}
    (hcrowded : s.IsCrowded threshold package) : package ≠ s.package := by
  obtain ⟨e, he, hsingle, rfl⟩ := singleCount_pos_iff.mp hcrowded.1
  exact h e he hsingle.1

end Sections

section Rebuilding

/-- Regular entries among which there is nothing to refuse or to remove are all collected. -/
theorem collected_iff_mem {own : String} {es : List ImportEntry}
    (hregular : ∀ e ∈ es, e.IsRegular) (hown : ∀ e ∈ es, e.isStatic = false → e.package ≠ own)
    (halone : ∀ e ∈ es, e.isStatic = false → wholePackage e.package ∈ es →
      e = wholePackage e.package) (e : ImportEntry) :
    Collected own es e ↔ e ∈ es := by
  -- a regular wildcard that is not static can only be the import of its package
  have hwhole : ∀ f ∈ es, f.isStatic = false → f.wildcard = true → f = wholePackage f.package := by
    rintro ⟨package, typeName, isStatic, wildcard⟩ hf rfl rfl
    obtain rfl : typeName = "*" := (hregular _ hf).mp rfl
    rfl
  have himports : ∀ package, ImportsWhole es package → wholePackage package ∈ es := by
    rintro package ⟨f, hf, hstatic, hwildcard, rfl⟩
    rw [← hwhole f hf hstatic hwildcard]
    exact hf
  constructor
  · rintro (⟨he, -⟩ | ⟨-, he⟩ | ⟨he, -, -, -⟩)
    · exact he
    · exact himports _ he
    · exact he
  · intro he
    cases hstatic : e.isStatic with
    | true => exact .static he hstatic
    | false =>
      cases hwildcard : e.wildcard with
      | true =>
        rw [hwhole e he hstatic hwildcard]
        exact .whole (hown e he hstatic) ⟨e, he, hstatic, hwildcard, rfl⟩
      | false =>
        have hsingle : e.IsSingle := ⟨hstatic, hwildcard⟩
        exact .single he hsingle (hown e he hstatic) fun hwhole =>
          hsingle.ne_wholePackage _ (halone e he hstatic (himports _ hwhole))

/-- A set that is made of a section holds just this. -/
theorem mem_addAll_of_perm_resolve (hs : ∀ e ∈ s.entries, e.IsRegular) (hsettled : s.Settled)
    {es : List ImportEntry} (hes : es.Perm (s.resolve threshold implicit)) (e : ImportEntry) :
    e ∈ ((empty s.package).addAll es).entries ↔ e ∈ s.resolve threshold implicit := by
  have hregular : ∀ e ∈ es, e.IsRegular :=
    fun e he => isRegular_of_mem_resolve hs e (hes.mem_iff.mp he)
  have hown : ∀ e ∈ es, e.isStatic = false → e.package ≠ s.package := by
    intro e he hstatic
    rcases mem_or_crowded_of_mem_resolve (hes.mem_iff.mp he) with he | ⟨-, hcrowded⟩
    · exact hsettled.spares e he hstatic
    · exact hcrowded.package_ne hsettled.spares
  -- a section lists no single import beside the import of the package
  have halone : ∀ e ∈ es, e.isStatic = false → wholePackage e.package ∈ es →
      e = wholePackage e.package := by
    intro e he hstatic hwhole
    rw [hes.mem_iff] at he hwhole
    have himplicit : e.package ∉ implicit :=
      fun himplicit => not_mem_resolve_of_implicit hstatic himplicit he
    by_cases hcrowded : s.IsCrowded threshold e.package
    · exact (mem_resolve_of_crowded hstatic himplicit hcrowded).mp he
    · have hmem : e ∈ s.entries := (mem_resolve_of_not_crowded hstatic himplicit hcrowded).mp he
      rcases mem_or_crowded_of_mem_resolve hwhole with hwhole | ⟨-, hcrowded'⟩
      · exact hsettled.alone e hmem hstatic hwhole
      · exact absurd hcrowded' hcrowded
  rw [mem_addAll_empty_iff fun e he => (hregular e he).mp, collected_iff_mem hregular hown halone,
    hes.mem_iff]

/-- Of what a section lists no package is crowded any more: the single imports of a crowded one are
gone, and of the others there are no more than before. -/
theorem not_isCrowded_of_mem_resolve
    (ht : ∀ e, e ∈ t.entries ↔ e ∈ s.resolve threshold implicit) {package : String}
    (himplicit : package ∉ implicit) : ¬t.IsCrowded threshold package := by
  intro hcrowded
  have hkept : ∀ e ∈ t.entries, e.IsSingle → e.package = package → e ∈ s.entries := by
    intro e he hsingle _
    rcases mem_or_crowded_of_mem_resolve ((ht e).mp he) with he | ⟨he, -⟩
    · exact he
    · exact absurd he (hsingle.ne_wholePackage _)
  have hle : t.singleCount package ≤ s.singleCount package := singleCount_le hkept
  have hcrowded' : s.IsCrowded threshold package :=
    ⟨hcrowded.1.trans_le hle, hcrowded.2.trans_le (by exact_mod_cast hle)⟩
  obtain ⟨e, he, hsingle, rfl⟩ := singleCount_pos_iff.mp hcrowded.1
  have hwhole := (mem_resolve_of_crowded hsingle.1 himplicit hcrowded').mp ((ht e).mp he)
  exact hsingle.ne_wholePackage _ hwhole

/-- A set that is made of a section has this section. -/
theorem resolve_of_perm_resolve (hs : ∀ e ∈ s.entries, e.IsRegular) (hsettled : s.Settled)
    {es : List ImportEntry} (hes : es.Perm (s.resolve threshold implicit)) :
    ((empty s.package).addAll es).resolve threshold implicit = s.resolve threshold implicit := by
  have hmem := mem_addAll_of_perm_resolve hs hsettled hes
  refine (resolve_eq_iff hs fun e he => isRegular_of_mem_resolve hs e ((hmem e).mp he)).mpr ?_
  intro e
  cases hstatic : e.isStatic with
  | true => rw [mem_resolve_of_static hstatic, hmem]
  | false =>
    by_cases himplicit : e.package ∈ implicit
    · exact iff_of_false (not_mem_resolve_of_implicit hstatic himplicit)
        (not_mem_resolve_of_implicit hstatic himplicit)
    · rw [mem_resolve_of_not_crowded hstatic himplicit
        (not_isCrowded_of_mem_resolve hmem himplicit), hmem]

end Rebuilding

section Collapsing

variable {package : String}

/-- The import of a whole package takes the place of all single imports of the package. -/
theorem mem_add_wholePackage (hpackage : package ≠ s.package) (e : ImportEntry) :
    e ∈ (s.add (wholePackage package)).entries ↔
      e ∈ s.entries ∧ ¬(e.isStatic = false ∧ e.package = package) ∨ e = wholePackage package := by
  have haccepts : s.accepts (wholePackage package) = true :=
    accepts_iff.mpr (.inr ⟨hpackage, .inl rfl⟩)
  rw [mem_add, haccepts]
  simp only [Displaces, wholePackage, true_and]

/-- The import of a whole package takes the place of whatever is listed of the package. -/
theorem mem_resolve_add_wholePackage (hpackage : package ≠ s.package) (e : ImportEntry) :
    e ∈ (s.add (wholePackage package)).resolve threshold implicit ↔
      e ∈ s.resolve threshold implicit ∧ ¬(e.isStatic = false ∧ e.package = package) ∨
        package ∉ implicit ∧ e = wholePackage package := by
  have hmem := mem_add_wholePackage hpackage
  by_cases hsame : e.package = package
  · subst hsame
    cases hstatic : e.isStatic with
    | true =>
      have hne : e ≠ wholePackage e.package := by
        intro he
        rw [he] at hstatic
        cases hstatic
      rw [mem_resolve_of_static hstatic, mem_resolve_of_static hstatic, hmem]
      simp [hstatic, hne]
    | false =>
      by_cases himplicit : e.package ∈ implicit
      · simp [not_mem_resolve_of_implicit hstatic himplicit, himplicit]
      · -- nothing is left of the package that could be counted
        have hcrowded : ¬(s.add (wholePackage e.package)).IsCrowded threshold e.package := by
          intro hcrowded
          obtain ⟨f, hf, hsingle, hfe⟩ := singleCount_pos_iff.mp hcrowded.1
          rcases (hmem f).mp hf with ⟨-, hnot⟩ | hf
          · exact hnot ⟨hsingle.1, hfe⟩
          · exact hsingle.ne_wholePackage _ hf
        rw [mem_resolve_of_not_crowded hstatic himplicit hcrowded, hmem]
        simp [hstatic, himplicit]
  · have hne : ∀ f : ImportEntry, f.package = e.package → f ≠ wholePackage package := by
      rintro f hf rfl
      exact hsame hf.symm
    have hother : ∀ f : ImportEntry, f.package = e.package →
        (f ∈ (s.add (wholePackage package)).entries ↔ f ∈ s.entries) := by
      intro f hf
      rw [hmem, hf]
      simp [hsame, hne f hf]
    rw [mem_resolve_congr hother]
    simp [hsame, hne e rfl]

/-- Of a package that is implicit, imported as a whole or crowded, static imports apart nothing but
the import of the whole package can be listed. -/
theorem Settled.mem_resolve_iff_whole (hsettled : s.Settled) {e : ImportEntry}
    (hstatic : e.isStatic = false)
    (h : e.package ∈ implicit ∨ wholePackage e.package ∈ s.entries ∨
      s.IsCrowded threshold e.package) :
    e ∈ s.resolve threshold implicit ↔ e.package ∉ implicit ∧ e = wholePackage e.package := by
  by_cases himplicit : e.package ∈ implicit
  · simp [not_mem_resolve_of_implicit hstatic himplicit, himplicit]
  rw [and_iff_right himplicit]
  by_cases hcrowded : s.IsCrowded threshold e.package
  · exact mem_resolve_of_crowded hstatic himplicit hcrowded
  · have hwhole : wholePackage e.package ∈ s.entries :=
      (h.resolve_left himplicit).resolve_right hcrowded
    rw [mem_resolve_of_not_crowded hstatic himplicit hcrowded]
    constructor
    · exact fun he => hsettled.alone e he hstatic hwhole
    · intro he
      rw [he]
      exact hwhole

/-- The import of a whole package can be added without a change to the section just when it is
refused, for the package is the own one, or not listed, for the package is implicit, or it is in the
set already, or it is listed anyway, for the package is crowded. -/
theorem resolve_add_wholePackage_iff (hs : ∀ e ∈ s.entries, e.IsRegular) (hsettled : s.Settled) :
    (s.add (wholePackage package)).resolve threshold implicit = s.resolve threshold implicit ↔
      package = s.package ∨ package ∈ implicit ∨ wholePackage package ∈ s.entries ∨
        s.IsCrowded threshold package := by
  by_cases hpackage : package = s.package
  · have hadd : s.add (wholePackage package) = s := by
      simp [add, accepts, wholePackage, hpackage]
    rw [hadd]
    exact iff_of_true rfl (.inl hpackage)
  have hregular : ∀ e ∈ (s.add (wholePackage package)).entries, e.IsRegular := by
    intro e he
    rcases (mem_add_wholePackage hpackage e).mp he with ⟨he, -⟩ | rfl
    · exact hs e he
    · exact isRegular_wholePackage package
  rw [resolve_eq_iff hs hregular]
  simp only [mem_resolve_add_wholePackage hpackage, hpackage, false_or]
  constructor
  · intro h
    by_cases himplicit : package ∈ implicit
    · exact .inl himplicit
    · have hlisted := (h (wholePackage package)).mp (.inr ⟨himplicit, rfl⟩)
      rcases mem_or_crowded_of_mem_resolve hlisted with he | ⟨-, hcrowded⟩
      · exact .inr (.inl he)
      · exact .inr (.inr hcrowded)
  · intro h e
    by_cases hthere : e.isStatic = false ∧ e.package = package
    · obtain ⟨hstatic, rfl⟩ := hthere
      rw [hsettled.mem_resolve_iff_whole hstatic h]
      simp [hstatic]
    · have hne : e ≠ wholePackage package := by
        rintro rfl
        exact hthere ⟨rfl, rfl⟩
      simp [hthere, hne]

end Collapsing

/-- A set that is made anew of what the section of a set of regular entries lists, in any order, has
the same section.  If types of a package are imported singly, and more of them than the threshold
allows, the import of the whole package can be added before without a change to the section.  No
types at all are more than a negative threshold allows; then the section stays the same just when
the package is the own one or implicit, or is imported as a whole already. -/
theorem resolve_settles (own : String) (es : List ImportEntry)
    (hes : ∀ e ∈ es, e.wildcard = true ↔ e.typeName = "*") (threshold : Int)
    (implicit : List String) :
    let s := (empty own).addAll es
    let listed := s.resolve threshold implicit
    (∀ es', es'.Perm listed → ((empty own).addAll es').resolve threshold implicit = listed) ∧
      ∀ package, threshold < s.singleCount package →
        ((s.add (wholePackage package)).resolve threshold implicit = listed ↔
          0 < s.singleCount package ∨ package = own ∨ package ∈ implicit ∨
            wholePackage package ∈ s.entries) := by
  intro s listed
  have hregular : ∀ e ∈ s.entries, e.IsRegular := isRegular_of_mem_addAll hes
  have hsettled : s.Settled := addAll_induction (fun _ e ht => ht.add e) (settled_empty own) es
  have hown : s.package = own := package_addAll (empty own) es
  constructor
  · intro es' hperm
    rw [← hown]
    exact resolve_of_perm_resolve hregular hsettled hperm
  · intro package hcount
    have hcrowded : s.IsCrowded threshold package ↔ 0 < s.singleCount package :=
      and_iff_left hcount
    rw [resolve_add_wholePackage_iff hregular hsettled, hcrowded, hown]
    tauto

/-- Two types of a package and the whole of another: both packages are listed as wholes, also when
the set is made of what is listed, and when the first is added as a whole. -/
theorem resolve_settles_files :
    let es : List ImportEntry := [⟨"java.io", "File", false, false⟩,
      ⟨"java.io", "Reader", false, false⟩, ⟨"java.net", "*", false, true⟩,
      ⟨"java.util", "List", false, false⟩, ⟨"java.util", "Objects.hash", true, false⟩]
    let s := (empty "shapes").addAll es
    let listed := s.resolve 1 ["java.lang"]
    (∀ e ∈ es, e.wildcard = true ↔ e.typeName = "*") ∧
      listed = [wholePackage "java.io", wholePackage "java.net",
        ⟨"java.util", "List", false, false⟩, ⟨"java.util", "Objects.hash", true, false⟩] ∧
      ((empty "shapes").addAll listed.reverse).resolve 1 ["java.lang"] = listed ∧
      (s.add (wholePackage "java.io")).resolve 1 ["java.lang"] = listed := by
  intro es s listed
  have hes : ∀ e ∈ es, e.wildcard = true ↔ e.typeName = "*" := by decide
  obtain ⟨hanew, hadded⟩ := resolve_settles "shapes" es hes 1 ["java.lang"]
  refine ⟨hes, List.mergeSort_of_pairwise (by decide), hanew _ (List.reverse_perm _), ?_⟩
  exact (hadded "java.io" (by decide)).mpr (.inl (by decide))

/-- No types at all are more than a negative threshold, and still the import of an unused package is
listed only when it has been added. -/
theorem resolve_add_unused_package :
    let s := empty "shapes"
    (-1 : Int) < s.singleCount "java.util" ∧
      (s.add (wholePackage "java.util")).resolve (-1) [] ≠ s.resolve (-1) [] := by
  refine ⟨by decide, fun h => ?_⟩
  have hlisted : wholePackage "java.util" ∈
      ((empty "shapes").add (wholePackage "java.util")).resolve (-1) [] :=
    (mem_resolve_add_wholePackage (by decide) _).mpr (.inr ⟨by decide, rfl⟩)
  rw [h] at hlisted
  cases (mem_resolve _ _).mp hlisted with
  | inl hcrowded =>
    obtain ⟨package, hpackage, -⟩ := hcrowded
    cases hpackage
  | inr hkept => cases hkept.1

end ImportSet

end JavaScribe
