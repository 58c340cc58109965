import JavaScribe.Import.Listing
import JavaScribe.Proofs.ImportSets
import JavaScribe.Proofs.StableSort

/-!
# What an import section lists

Resolving keeps the static imports, leaves out the packages whose types need no import, and
replaces the single imports of a crowded package by one of the whole package.
`ImportEntry.mem_resolve` says which entries are listed.

The lines of an import section are told by the keys by which the entries are ordered.  Two entries
with one key may still differ in the wildcard flag, so the order of an enumeration can leave a
trace in the section; in its lines it leaves none (`ImportSet.lines_eq_of_same_entries`).
-/

set_option autoImplicit false

namespace JavaScribe

/-- After duplicates are erased, nothing is there twice. -/
theorem nodup_eraseDups {α : Type} [DecidableEq α] (l : List α) : l.eraseDups.Nodup := by
  match l with
  | [] => exact .nil
  | a :: l =>
    rw [List.eraseDups_cons]
    refine List.nodup_cons.mpr ⟨?_, nodup_eraseDups _⟩
    simp
termination_by l.length
decreasing_by exact Nat.lt_succ_of_le (List.length_filter_le ..)

namespace ImportEntry

section Selection

variable (threshold : Int) (implicit : List String)

/-- The number of single imports of a package that is not implicit. -/
def ordinaryCount (es : List ImportEntry) (package : String) : Nat :=
  es.countP fun e => isOrdinary implicit e && e.package == package

/-- A package is crowded if more types of it are imported than the threshold allows, and at least
one is. -/
theorem mem_crowdedPackages {es : List ImportEntry} {p : String} :
    p ∈ crowdedPackages threshold implicit es ↔
      (∃ e ∈ es, isOrdinary implicit e = true ∧ e.package = p) ∧
        threshold < (ordinaryCount implicit es p : Int) := by
  have hcount : ((es.filter (isOrdinary implicit)).map ImportEntry.package).count p =
      ordinaryCount implicit es p := by
    rw [List.count, List.countP_map, List.countP_filter, ordinaryCount]
    refine List.countP_congr fun e _ => ?_
    simp only [Function.comp_apply, Bool.and_eq_true, and_comm]
  simp only [crowdedPackages, List.mem_filter, List.mem_eraseDups, List.mem_map, hcount,
    decide_eq_true_eq, and_assoc]

/-- A crowded package is none of the implicit ones. -/
theorem not_mem_implicit_of_mem_crowdedPackages {es : List ImportEntry} {p : String}
    (h : p ∈ crowdedPackages threshold implicit es) : p ∉ implicit := by
  obtain ⟨⟨e, -, hordinary, rfl⟩, -⟩ := (mem_crowdedPackages threshold implicit).mp h
  simp only [isOrdinary, Bool.and_eq_true, Bool.not_eq_true', List.contains_eq_mem,
    decide_eq_false_iff_not] at hordinary
  exact hordinary.2

/-- What an import section lists: the crowded packages, the static imports, and every other import
whose package is neither implicit nor crowded. -/
theorem mem_resolve {es : List ImportEntry} {e : ImportEntry} :
    e ∈ resolve threshold implicit es ↔
      (∃ p ∈ crowdedPackages threshold implicit es, e = wholePackage p) ∨
        e ∈ es ∧ (e.isStatic = true ∨
          e.package ∉ implicit ∧ e.package ∉ crowdedPackages threshold implicit es) := by
  simp only [resolve, List.mem_mergeSort, selected, List.mem_append, List.mem_map,
    List.mem_filter, Bool.or_eq_true, Bool.and_eq_true, Bool.not_eq_true', List.contains_eq_mem,
    decide_eq_false_iff_not]
  simp only [eq_comm]

/-- The order of entries makes no difference to which packages are crowded. -/
theorem crowdedPackages_perm {es es' : List ImportEntry} (h : es.Perm es') :
    (crowdedPackages threshold implicit es).Perm (crowdedPackages threshold implicit es') := by
  have hnodup : ∀ es, (crowdedPackages threshold implicit es).Nodup :=
    fun es => (nodup_eraseDups _).filter _
  refine (List.perm_ext_iff_of_nodup (hnodup es) (hnodup es')).mpr fun p => ?_
  simp only [mem_crowdedPackages, ordinaryCount, h.countP_eq, h.mem_iff]

/-- The order of entries makes no difference to which of them are listed. -/
theorem selected_perm {es es' : List ImportEntry} (h : es.Perm es') :
    (selected threshold implicit es).Perm (selected threshold implicit es') := by
  have hcrowded := crowdedPackages_perm threshold implicit h
  have hcontains : ∀ p, (crowdedPackages threshold implicit es).contains p =
      (crowdedPackages threshold implicit es').contains p := by
    intro p
    rw [Bool.eq_iff_iff, List.contains_iff_mem, List.contains_iff_mem, hcrowded.mem_iff]
  unfold selected
  refine (hcrowded.map wholePackage).append ?_
  simp only [hcontains]
  exact h.filter _

/-- By what entries are listed, which is all that is written of them. -/
def listingKey (e : ImportEntry) : String × String × Bool := (e.package, e.typeName, !e.isStatic)

/-- The order of the keys of a listing. -/
def listingOrder : String × String × Bool → String × String × Bool → Ordering :=
  compareLex (compareOn fun k => k.1)
    (compareLex (compareOn fun k => k.2.1) (compareOn fun k => k.2.2))

/-- The order of listings is transitive, since it compares one part after the other. -/
instance : Std.TransCmp listingOrder := by unfold listingOrder; infer_instance

/-- Only what is listed in the same way is equal in the order of listings. -/
instance : Std.LawfulEqCmp listingOrder where
  eq_of_compare {a b} h := by
    simp only [listingOrder, compareLex_eq_eq, compareOn, Std.compare_eq_iff_eq] at h
    obtain ⟨hpackage, htype, hstatic⟩ := h
    exact Prod.ext hpackage (Prod.ext htype hstatic)

/-- Whether a list is the import section of some entries when those that are selected come in some
order before they are sorted. -/
def IsSection (es listing : List ImportEntry) : Prop :=
  ∃ selection : List ImportEntry, selection.Perm (selected threshold implicit es) ∧
    listing = selection.mergeSort precedes

/-- The resolved entries of a set are its section. -/
theorem isSection_resolve (es : List ImportEntry) :
    IsSection threshold implicit es (resolve threshold implicit es) :=
  ⟨_, .refl _, rfl⟩

variable {threshold implicit}

/-- Two sections of the same entries are listed in the same way. -/
theorem map_listingKey_eq_of_isSection {es es' listing listing' : List ImportEntry}
    (h : es.Perm es') (hl : IsSection threshold implicit es listing)
    (hl' : IsSection threshold implicit es' listing') :
    listing.map listingKey = listing'.map listingKey := by
  obtain ⟨selection, hselection, rfl⟩ := hl
  obtain ⟨selection', hselection', rfl⟩ := hl'
  have hperm : selection.Perm selection' :=
    (hselection.trans (selected_perm threshold implicit h)).trans hselection'.symm
  exact StableSort.map_key_mergeSort_eq_of_perm listingOrder listingKey hperm

variable (threshold implicit)

/-- The order of entries makes no difference to how the resolved section is listed. -/
theorem map_listingKey_resolve_eq_of_perm {es es' : List ImportEntry} (h : es.Perm es') :
    (resolve threshold implicit es).map listingKey =
      (resolve threshold implicit es').map listingKey :=
  map_listingKey_eq_of_isSection h (isSection_resolve ..) (isSection_resolve ..)

end Selection

section Lines

/-- Entries with the same key are in the same package and are written alike. -/
theorem package_text_eq_of_listingKey_eq {e f : ImportEntry} (h : e.listingKey = f.listingKey) :
    e.package = f.package ∧ e.text = f.text := by
  simp only [listingKey, Prod.mk.injEq, Bool.not_inj_iff] at h
  obtain ⟨hpackage, htype, hstatic⟩ := h
  refine ⟨hpackage, ?_⟩
  unfold text
  rw [hpackage, htype, hstatic]

/-- Entries that are listed in the same way have the same lines behind any group. -/
theorem linesAfter_eq_of_map_eq (prefixes : List String) {es fs : List ImportEntry}
    (h : es.map listingKey = fs.map listingKey) (last : String) :
    linesAfter prefixes last es = linesAfter prefixes last fs := by
  induction es generalizing fs last with
  | nil =>
    obtain rfl : fs = [] := List.map_eq_nil_iff.mp h.symm
    rfl
  | cons e es ih =>
    obtain ⟨f, fs, rfl, hkey, hrest⟩ := List.map_eq_cons_iff.mp h.symm
    obtain ⟨hpackage, htext⟩ := package_text_eq_of_listingKey_eq hkey
    simp only [linesAfter, hpackage, htext, ih hrest.symm]

/-- Entries that are listed in the same way have the same lines. -/
theorem lines_eq_of_map_eq (prefixes : List String) {es fs : List ImportEntry}
    (h : es.map listingKey = fs.map listingKey) : lines prefixes es = lines prefixes fs := by
  cases es with
  | nil =>
    obtain rfl : fs = [] := List.map_eq_nil_iff.mp h.symm
    rfl
  | cons e es =>
    obtain ⟨f, fs, rfl, hkey, hrest⟩ := List.map_eq_cons_iff.mp h.symm
    obtain ⟨hpackage, htext⟩ := package_text_eq_of_listingKey_eq hkey
    simp only [lines, hpackage, htext, linesAfter_eq_of_map_eq prefixes hrest]

/-- Two sections of the same entries have the same lines. -/
theorem lines_eq_of_isSection (prefixes : List String) {threshold : Int}
    {implicit : List String} {es es' listing listing' : List ImportEntry} (h : es.Perm es')
    (hl : IsSection threshold implicit es listing)
    (hl' : IsSection threshold implicit es' listing') :
    lines prefixes listing = lines prefixes listing' :=
  lines_eq_of_map_eq prefixes (map_listingKey_eq_of_isSection h hl hl')

/-- The lines of an import section do not depend on the order of the entries. -/
theorem lines_resolve_eq_of_perm (prefixes : List String) (threshold : Int)
    (implicit : List String) {es es' : List ImportEntry} (h : es.Perm es') :
    lines prefixes (resolve threshold implicit es) =
      lines prefixes (resolve threshold implicit es') :=
  lines_eq_of_isSection prefixes h (isSection_resolve ..) (isSection_resolve ..)

/-- Entries that differ in their flags only are equal in the order of entries. -/
theorem order_wildcard (e : ImportEntry) (wildcard : Bool) :
    order e { e with wildcard := wildcard } = .eq := by
  simp only [order, compareLex, compareOn, Std.ReflCmp.compare_self, Ordering.then]

end Lines

end ImportEntry

namespace ImportSet

open ImportEntry

/-- Sets with the same entries have import sections with the same lines, whatever the entries are
and in whatever order each set is gone through, what it holds as well as what is selected from it.
And yet the order of listings does not tell entries apart that differ in the wildcard flag. -/
theorem lines_eq_of_same_entries (s t : ImportSet) (h : ∀ e, e ∈ s.entries ↔ e ∈ t.entries)
    (threshold : Int) (implicit prefixes : List String) :
    (∀ listing listing', IsSection threshold implicit s.entries listing →
      IsSection threshold implicit t.entries listing' →
      lines prefixes listing = lines prefixes listing') ∧
      lines prefixes (s.resolve threshold implicit) =
        lines prefixes (t.resolve threshold implicit) ∧
      ∀ (e : ImportEntry) (wildcard : Bool), order e { e with wildcard := wildcard } = .eq := by
  have hperm : s.entries.Perm t.entries := (List.perm_ext_iff_of_nodup s.nodup t.nodup).mpr h
  have hlines : ∀ listing listing', IsSection threshold implicit s.entries listing →
      IsSection threshold implicit t.entries listing' →
      lines prefixes listing = lines prefixes listing' :=
    fun _ _ hl hl' => lines_eq_of_isSection prefixes hperm hl hl'
  exact ⟨hlines, hlines _ _ (isSection_resolve ..) (isSection_resolve ..), order_wildcard⟩

/-- Gone through in two orders, a set has two sections, which are the same only when written. -/
theorem lines_eq_of_same_entries_flagged :
    let single : ImportEntry := ⟨"java.util", "List", false, false⟩
    let flagged : ImportEntry := ⟨"java.util", "List", false, true⟩
    let s : ImportSet := ⟨"shapes", [single, flagged], by decide⟩
    let t : ImportSet := ⟨"shapes", [flagged, single], by decide⟩
    (∀ e, e ∈ s.entries ↔ e ∈ t.entries) ∧
      s.resolve 5 ["java.lang"] ≠ t.resolve 5 ["java.lang"] ∧
      lines ["java."] (s.resolve 5 ["java.lang"]) =
        lines ["java."] (t.resolve 5 ["java.lang"]) := by
  intro single flagged s t
  have hsame : ∀ e, e ∈ s.entries ↔ e ∈ t.entries := fun e => (List.Perm.swap ..).mem_iff
  -- the two entries are tied, so either order is that of a listing
  have hs : s.resolve 5 ["java.lang"] = [single, flagged] := List.mergeSort_of_pairwise (by decide)
  have ht : t.resolve 5 ["java.lang"] = [flagged, single] := List.mergeSort_of_pairwise (by decide)
  refine ⟨hsame, ?_, (lines_eq_of_same_entries s t hsame 5 ["java.lang"] ["java."]).2.1⟩
  rw [hs, ht]
  decide

end ImportSet

end JavaScribe
