import JavaScribe.Proofs.ImportListings
import JavaScribe.Proofs.ImportRequests

/-!
# Import sections, package by package

What a section lists is settled for every package by itself, and for static imports apart from the
others: these are all listed.  Of an implicit package nothing else is listed, of a crowded one only
the import of the whole package, and of any other just what the set holds
(`ImportSet.resolve_lists_exactly`).

The order of listings tells all entries of a section apart if their wildcard flags are set just when
their type names are stars.  Such a section has no entry twice, and two of them with the same
entries are the same (`ImportEntry.eq_of_listedBefore`).
-/

set_option autoImplicit false

namespace JavaScribe

namespace ImportEntry

/-- Whether an entry is the import of a single type is decided by its flags. -/
instance : DecidablePred IsSingle := fun _ => inferInstanceAs (Decidable (_ ∧ _))

/-- Whether the wildcard flag is set just when the type name is a star. -/
def IsRegular (e : ImportEntry) : Prop := e.wildcard = true ↔ e.typeName = "*"

/-- The import of a whole package has consistent flags. -/
theorem isRegular_wholePackage (package : String) : (wholePackage package).IsRegular :=
  iff_of_true rfl rfl

section Order

variable {a b : ImportEntry}

/-- Whether an entry comes before another by its package, then by its type name, and then because
it is static and the other is not. -/
def ListedBefore (a b : ImportEntry) : Prop :=
  a.package < b.package ∨ a.package = b.package ∧
    (a.typeName < b.typeName ∨ a.typeName = b.typeName ∧ a.isStatic = true ∧ b.isStatic = false)

/-- The order of entries is the one by package, type name and kind. -/
theorem order_eq_lt_iff : order a b = .lt ↔ a.ListedBefore b := by
  have htext : ∀ s t : String, compare s t = .lt ↔ s < t := fun _ _ => compareOfLessAndEq_eq_lt
  have hstatic : compare (!a.isStatic) (!b.isStatic) = .lt ↔
      a.isStatic = true ∧ b.isStatic = false := by
    cases a.isStatic <;> cases b.isStatic <;> decide
  simp only [order, compareLex, compareOn, Ordering.then_eq_lt, Std.compare_eq_iff_eq, htext,
    hstatic, ListedBefore]

/-- How entries are listed tells their order. -/
theorem listingOrder_listingKey (a b : ImportEntry) :
    listingOrder a.listingKey b.listingKey = order a b := rfl

/-- Of two entries, only one is listed before the other. -/
theorem ListedBefore.asymm (h : a.ListedBefore b) : ¬b.ListedBefore a := by
  rw [← order_eq_lt_iff, ← listingOrder_listingKey] at h ⊢
  have hswap : listingOrder b.listingKey a.listingKey =
      (listingOrder a.listingKey b.listingKey).swap := Std.OrientedCmp.eq_swap
  rw [hswap, h]
  decide

/-- Regular entries are told apart by their keys: the flag is no other matter than the name. -/
theorem IsRegular.eq_of_order_eq (ha : a.IsRegular) (hb : b.IsRegular)
    (h : order a b = .eq) : a = b := by
  rw [← listingOrder_listingKey] at h
  have hkey : a.listingKey = b.listingKey := Std.LawfulEqCmp.eq_of_compare h
  obtain ⟨package, typeName, isStatic, wildcard⟩ := a
  obtain ⟨package', typeName', isStatic', wildcard'⟩ := b
  simp only [listingKey, Prod.mk.injEq, Bool.not_inj_iff] at hkey
  obtain ⟨rfl, rfl, rfl⟩ := hkey
  have hflag : wildcard = true ↔ wildcard' = true := Iff.trans ha (Iff.symm hb)
  rw [Bool.eq_iff_iff.mpr hflag]

/-- Entries in strict order have no duplicates. -/
theorem nodup_of_listedBefore {es : List ImportEntry} (h : es.Pairwise ListedBefore) :
    es.Nodup := by
  refine h.imp fun hab => ?_
  rintro rfl
  exact hab.asymm hab

/-- Lists in strict order are the same if they have the same entries. -/
theorem eq_of_listedBefore {es es' : List ImportEntry} (hes : es.Pairwise ListedBefore)
    (hes' : es'.Pairwise ListedBefore) (h : ∀ e, e ∈ es ↔ e ∈ es') : es = es' := by
  have hperm : es.Perm es' :=
    (List.perm_ext_iff_of_nodup (nodup_of_listedBefore hes) (nodup_of_listedBefore hes')).mpr h
  exact hperm.eq_of_pairwise (fun a b _ _ hab hba => absurd hba hab.asymm) hes hes'

end Order

section Selection

variable (threshold : Int) (implicit : List String) {es : List ImportEntry}

/-- Nothing is selected twice: the wholes of crowded packages are not among the entries that are
selected as they are. -/
theorem nodup_selected (hes : es.Nodup) : (selected threshold implicit es).Nodup := by
  have hcrowded : (crowdedPackages threshold implicit es).Nodup := (nodup_eraseDups _).filter _
  have hinjective : Function.Injective wholePackage := fun p q h => congrArg ImportEntry.package h
  refine List.nodup_append.mpr ⟨hcrowded.map hinjective, hes.filter _, ?_⟩
  intro e he f hf hef
  subst hef
  obtain ⟨package, hpackage, rfl⟩ := List.mem_map.mp he
  have hkept := (List.mem_filter.mp hf).2
  simp [wholePackage, hpackage] at hkept

/-- A section of regular entries is in strict order. -/
theorem pairwise_listedBefore_resolve (hes : es.Nodup) (hregular : ∀ e ∈ es, e.IsRegular) :
    (resolve threshold implicit es).Pairwise ListedBefore := by
  have hmem : ∀ e ∈ resolve threshold implicit es, e.IsRegular := by
    intro e he
    rcases (mem_resolve threshold implicit).mp he with ⟨package, -, rfl⟩ | ⟨he, -⟩
    · exact isRegular_wholePackage package
    · exact hregular e he
  have hnodup : (resolve threshold implicit es).Nodup :=
    (List.mergeSort_perm _ _).nodup_iff.mpr (nodup_selected threshold implicit hes)
  have hsorted : (resolve threshold implicit es).Pairwise fun a b => precedes a b = true :=
    StableSort.pairwise_mergeSort listingOrder listingKey _
  refine (hsorted.and hnodup).imp_of_mem ?_
  rintro a b ha hb ⟨hle, hne⟩
  rcases Ordering.isLE_iff_eq_lt_or_eq_eq.mp hle with hlt | heq
  · exact order_eq_lt_iff.mp hlt
  · exact absurd ((hmem a ha).eq_of_order_eq (hmem b hb) heq) hne

end Selection

end ImportEntry

namespace ImportSet

open ImportEntry

variable {s t : ImportSet}

/-- The number of types of a package that are imported singly. -/
def singleCount (s : ImportSet) (package : String) : Nat :=
  s.entries.countP fun e => decide (e.IsSingle ∧ e.package = package)

/-- Whether types of a package are imported singly, and more of them than the threshold allows. -/
def IsCrowded (s : ImportSet) (threshold : Int) (package : String) : Prop :=
  0 < s.singleCount package ∧ threshold < s.singleCount package

/-- There are single types of a package just if one of them is imported. -/
theorem singleCount_pos_iff {package : String} :
    0 < s.singleCount package ↔ ∃ e ∈ s.entries, e.IsSingle ∧ e.package = package := by
  simp only [singleCount, List.countP_pos_iff, decide_eq_true_eq]

/-- A set has no more single types of a package than a set that holds all of them. -/
theorem singleCount_le {package : String}
    (h : ∀ e ∈ t.entries, e.IsSingle → e.package = package → e ∈ s.entries) :
    t.singleCount package ≤ s.singleCount package := by
  rw [singleCount, singleCount, List.countP_eq_length_filter, List.countP_eq_length_filter]
  refine (List.subperm_of_subset (t.nodup.filter _) fun e he => ?_).length_le
  obtain ⟨hmem, hcounted⟩ := List.mem_filter.mp he
  obtain ⟨hsingle, hpackage⟩ := of_decide_eq_true hcounted
  exact List.mem_filter.mpr ⟨h e hmem hsingle hpackage, hcounted⟩

/-- Sets that agree on a package have equally many single types of it. -/
theorem singleCount_congr {package : String}
    (h : ∀ e, e.package = package → (e ∈ t.entries ↔ e ∈ s.entries)) :
    t.singleCount package = s.singleCount package :=
  le_antisymm (singleCount_le fun e he _ hpackage => (h e hpackage).mp he)
    (singleCount_le fun e he _ hpackage => (h e hpackage).mpr he)

section Resolve

variable {threshold : Int} {implicit : List String}

/-- A package that is not implicit is imported as a whole just if it is crowded. -/
theorem mem_crowdedPackages_iff {package : String} (h : package ∉ implicit) :
    package ∈ crowdedPackages threshold implicit s.entries ↔ s.IsCrowded threshold package := by
  have hordinary : ∀ e : ImportEntry, (isOrdinary implicit e && e.package == package) =
      decide (e.IsSingle ∧ e.package = package) := by
    intro e
    rw [Bool.eq_iff_iff, decide_eq_true_iff, IsSingle]
    simp only [isOrdinary, Bool.and_eq_true, Bool.not_eq_true', List.contains_eq_mem,
      decide_eq_false_iff_not, beq_iff_eq]
    refine and_congr_left fun hpackage => ?_
    rw [hpackage]
    exact and_iff_left h
  have hcount : ordinaryCount implicit s.entries package = s.singleCount package := by
    simp only [ordinaryCount, singleCount, hordinary]
  rw [mem_crowdedPackages, hcount, IsCrowded, ← hcount, ordinaryCount, List.countP_pos_iff]
  simp only [Bool.and_eq_true, beq_iff_eq]

variable {e : ImportEntry}

/-- Static entries are listed as they are. -/
theorem mem_resolve_of_static (h : e.isStatic = true) :
    e ∈ s.resolve threshold implicit ↔ e ∈ s.entries := by
  rw [resolve, mem_resolve]
  constructor
  · rintro (⟨package, -, rfl⟩ | ⟨he, -⟩)
    · cases h
    · exact he
  · exact fun he => .inr ⟨he, .inl h⟩

/-- Of an implicit package only static entries are listed. -/
theorem not_mem_resolve_of_implicit (hstatic : e.isStatic = false) (h : e.package ∈ implicit) :
    e ∉ s.resolve threshold implicit := by
  rw [resolve, mem_resolve]
  rintro (⟨package, hcrowded, rfl⟩ | ⟨-, hstatic' | ⟨hnot, -⟩⟩)
  · exact not_mem_implicit_of_mem_crowdedPackages threshold implicit hcrowded h
  · rw [hstatic] at hstatic'
    cases hstatic'
  · exact hnot h

/-- Of a crowded package the import of the whole package is listed, and nothing else that is not
static. -/
theorem mem_resolve_of_crowded (hstatic : e.isStatic = false) (himplicit : e.package ∉ implicit)
    (h : s.IsCrowded threshold e.package) :
    e ∈ s.resolve threshold implicit ↔ e = wholePackage e.package := by
  have hcrowded := (mem_crowdedPackages_iff himplicit).mpr h
  rw [resolve, mem_resolve]
  constructor
  · rintro (⟨package, -, rfl⟩ | ⟨-, hstatic' | ⟨-, hnot⟩⟩)
    · rfl
    · rw [hstatic] at hstatic'
      cases hstatic'
    · exact absurd hcrowded hnot
  · exact fun he => .inl ⟨_, hcrowded, he⟩

/-- Of a package that is not crowded all entries are listed as they are. -/
theorem mem_resolve_of_not_crowded (hstatic : e.isStatic = false)
    (himplicit : e.package ∉ implicit) (h : ¬s.IsCrowded threshold e.package) :
    e ∈ s.resolve threshold implicit ↔ e ∈ s.entries := by
  have hcrowded := (mem_crowdedPackages_iff himplicit).not.mpr h
  rw [resolve, mem_resolve]
  constructor
  · rintro (⟨package, hpackage, rfl⟩ | ⟨he, -⟩)
    · exact absurd hpackage hcrowded
    · exact he
  · exact fun he => .inr ⟨he, .inr ⟨himplicit, hcrowded⟩⟩

/-- What is listed of a package depends on nothing but what the set holds of it. -/
theorem mem_resolve_congr (h : ∀ f, f.package = e.package → (f ∈ t.entries ↔ f ∈ s.entries)) :
    e ∈ t.resolve threshold implicit ↔ e ∈ s.resolve threshold implicit := by
  cases hstatic : e.isStatic with
  | true => rw [mem_resolve_of_static hstatic, mem_resolve_of_static hstatic, h e rfl]
  | false =>
    by_cases himplicit : e.package ∈ implicit
    · exact iff_of_false (not_mem_resolve_of_implicit hstatic himplicit)
        (not_mem_resolve_of_implicit hstatic himplicit)
    · have hiff : t.IsCrowded threshold e.package ↔ s.IsCrowded threshold e.package := by
        rw [IsCrowded, IsCrowded, singleCount_congr h]
      by_cases hcrowded : s.IsCrowded threshold e.package
      · rw [mem_resolve_of_crowded hstatic himplicit (hiff.mpr hcrowded),
          mem_resolve_of_crowded hstatic himplicit hcrowded]
      · rw [mem_resolve_of_not_crowded hstatic himplicit (hiff.not.mpr hcrowded),
          mem_resolve_of_not_crowded hstatic himplicit hcrowded, h e rfl]

/-- A higher threshold leaves no fewer single imports. -/
theorem mem_resolve_of_le {threshold' : Int} (hle : threshold ≤ threshold') (hsingle : e.IsSingle)
    (h : e ∈ s.resolve threshold implicit) : e ∈ s.resolve threshold' implicit := by
  have himplicit : e.package ∉ implicit :=
    fun hmem => not_mem_resolve_of_implicit hsingle.1 hmem h
  have hcrowded : ¬s.IsCrowded threshold e.package := fun hcrowded =>
    hsingle.ne_wholePackage _ ((mem_resolve_of_crowded hsingle.1 himplicit hcrowded).mp h)
  have hcrowded' : ¬s.IsCrowded threshold' e.package :=
    fun hcrowded' => hcrowded ⟨hcrowded'.1, hle.trans_lt hcrowded'.2⟩
  rw [mem_resolve_of_not_crowded hsingle.1 himplicit hcrowded] at h
  exact (mem_resolve_of_not_crowded hsingle.1 himplicit hcrowded').mpr h

end Resolve

/-- If the entries that are added have consistent flags, so have those of the set. -/
theorem isRegular_of_mem_addAll {own : String} {es : List ImportEntry}
    (hes : ∀ e ∈ es, e.IsRegular) : ∀ e ∈ ((empty own).addAll es).entries, e.IsRegular := by
  intro e he
  rcases mem_or_mem_of_mem_addAll he with he | he
  · cases he
  · exact hes e he

/-- The section of a set of regular entries is in strict order, so that it has no entry twice.  It
lists the static imports of the set; of each package that is not implicit, only the import of the
whole package if types of it are imported singly and more than the threshold allows, and all that
the set holds of it otherwise; and nothing else.  Asking for it leaves the set as it is, and a
higher threshold keeps every single import that a lower one keeps. -/
theorem resolve_lists_exactly (own : String) (es : List ImportEntry)
    (hes : ∀ e ∈ es, e.wildcard = true ↔ e.typeName = "*") (threshold : Int)
    (implicit : List String) :
    let s := (empty own).addAll es
    let listed := s.resolve threshold implicit
    listed.Pairwise ListedBefore ∧ listed.Nodup ∧
      (∀ e, e.isStatic = true → (e ∈ listed ↔ e ∈ s.entries)) ∧
      (∀ e, e.isStatic = false → e.package ∈ implicit → e ∉ listed) ∧
      (∀ package, package ∉ implicit →
        ∀ e, e.isStatic = false → e.package = package →
          (e ∈ listed ↔
            if 0 < s.singleCount package ∧ threshold < s.singleCount package then
              e = wholePackage package
            else e ∈ s.entries)) ∧
      (s.handle (.resolve threshold implicit)).2 = s ∧
      ∀ threshold', threshold ≤ threshold' → ∀ e ∈ listed, e.IsSingle →
        e ∈ s.resolve threshold' implicit := by
  intro s listed
  have hsorted : listed.Pairwise ListedBefore :=
    pairwise_listedBefore_resolve threshold implicit s.nodup (isRegular_of_mem_addAll hes)
  refine ⟨hsorted, nodup_of_listedBefore hsorted, fun e => mem_resolve_of_static,
    fun e => not_mem_resolve_of_implicit, ?package, rfl,
    fun threshold' hle e he hsingle => mem_resolve_of_le hle hsingle he⟩
  case package =>
    rintro package himplicit e hstatic rfl
    split
    · next hcrowded => exact mem_resolve_of_crowded hstatic himplicit hcrowded
    · next hcrowded => exact mem_resolve_of_not_crowded hstatic himplicit hcrowded

/-- Two types are more than the threshold of one allows, and one is not. -/
theorem resolve_lists_exactly_files :
    let es : List ImportEntry := [⟨"java.io", "File", false, false⟩,
      ⟨"java.io", "Reader", false, false⟩, ⟨"java.lang", "String", false, false⟩,
      ⟨"java.net", "*", false, true⟩, ⟨"java.util", "List", false, false⟩,
      ⟨"java.util", "Objects.hash", true, false⟩]
    let s := (empty "shapes").addAll es
    (∀ e ∈ es, e.wildcard = true ↔ e.typeName = "*") ∧
      s.resolve 1 ["java.lang"] = [wholePackage "java.io", wholePackage "java.net",
        ⟨"java.util", "List", false, false⟩, ⟨"java.util", "Objects.hash", true, false⟩] ∧
      (s.resolve 1 ["java.lang"]).Pairwise ListedBefore ∧
      ∀ e, e.isStatic = false → e.package = "java.io" →
        (e ∈ s.resolve 1 ["java.lang"] ↔ e = wholePackage "java.io") := by
  intro es s
  have hes : ∀ e ∈ es, e.wildcard = true ↔ e.typeName = "*" := by decide
  obtain ⟨hsorted, -, -, -, hpackage, -⟩ :=
    resolve_lists_exactly "shapes" es hes 1 ["java.lang"]
  refine ⟨hes, List.mergeSort_of_pairwise (by decide), hsorted, ?_⟩
  exact hpackage "java.io" (by decide)

end ImportSet

end JavaScribe
