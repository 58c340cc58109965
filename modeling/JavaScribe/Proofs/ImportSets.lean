import JavaScribe.Import.Set
import Mathlib.Data.List.Perm.Basic

/-!
# What an import set holds

Adding an entry can put it into the set, leave the set alone, or, if it is the import of a whole
package, remove others.  `ImportSet.mem_add` says which entries are there afterwards.

Single imports, which are all that the mention of a type ever adds, remove nothing and do not
decide about each other.  So the entries after several of them can be told at once
(`ImportSet.mem_addAll_of_single`), and their order makes no difference to what the set holds
(`ImportSet.addAll_perm`).
-/

set_option autoImplicit false

namespace JavaScribe

/-- Whether an entry imports a single type. -/
def ImportEntry.IsSingle (e : ImportEntry) : Prop := e.isStatic = false ∧ e.wildcard = false

/-- A type that is mentioned is imported by itself. -/
theorem ImportEntry.isSingle_ofTypeName (n : TypeName) : (ofTypeName n).IsSingle := ⟨rfl, rfl⟩

/-- Whether adding an entry removes another one. -/
def ImportEntry.Displaces (e f : ImportEntry) : Prop :=
  e.isStatic = false ∧ e.wildcard = true ∧ f.isStatic = false ∧ f.package = e.package

/-- The import of a single type removes no other entry. -/
theorem ImportEntry.IsSingle.not_displaces {e : ImportEntry} (he : e.IsSingle)
    (f : ImportEntry) : ¬e.Displaces f := by
  rintro ⟨-, hwildcard, -, -⟩
  rw [he.2] at hwildcard
  cases hwildcard

/-- The import of a single type is not that of a whole package. -/
theorem ImportEntry.IsSingle.ne_wholePackage {e : ImportEntry} (he : e.IsSingle)
    (package : String) : e ≠ wholePackage package := by
  rintro rfl
  cases he.2

namespace ImportSet

/-- Clearing a package leaves its static entries and those of other packages. -/
theorem mem_clearPackage (s : ImportSet) (package : String) (f : ImportEntry) :
    f ∈ (s.clearPackage package).entries ↔
      f ∈ s.entries ∧ (f.isStatic = true ∨ f.package ≠ package) := by
  simp only [clearPackage, List.mem_filter, Bool.or_eq_true, bne_iff_ne]

/-- What a set holds after an entry was added. -/
theorem mem_add (s : ImportSet) (e f : ImportEntry) :
    f ∈ (s.add e).entries ↔
      f ∈ s.entries ∧ ¬(s.accepts e = true ∧ e.Displaces f) ∨ s.accepts e = true ∧ f = e := by
  unfold add
  cases haccepts : s.accepts e with
  | false => simp
  | true =>
    simp only [if_true, mem_store, true_and]
    split
    · next h =>
      simp only [Bool.and_eq_true, Bool.not_eq_true'] at h
      rw [mem_clearPackage, ImportEntry.Displaces, or_comm]
      simp only [h.1, h.2, true_and, not_and_or, Bool.not_eq_false, ne_eq]
    · next h =>
      have hdisplaces : ¬e.Displaces f := by
        rintro ⟨hstatic, hwildcard, -, -⟩
        simp [hstatic, hwildcard] at h
      simp only [hdisplaces, not_false_eq_true, and_true, or_comm]

/-- Adding an entry does not change the package of a set. -/
theorem package_add (s : ImportSet) (e : ImportEntry) : (s.add e).package = s.package := by
  unfold add
  split
  · unfold store
    split <;> split <;> rfl
  · rfl

/-- What every addition keeps is kept by several. -/
theorem addAll_induction {P : ImportSet → Prop} (hadd : ∀ s e, P s → P (s.add e))
    {s : ImportSet} (h : P s) (es : List ImportEntry) : P (s.addAll es) := by
  induction es generalizing s with
  | nil => exact h
  | cons e es ih => exact ih (hadd s e h)

/-- Adding entries does not change the package of a set. -/
theorem package_addAll (s : ImportSet) (es : List ImportEntry) :
    (s.addAll es).package = s.package :=
  addAll_induction (P := fun t => t.package = s.package)
    (fun t e ht => (package_add t e).trans ht) rfl es

/-- Only what was there or is added is in the set afterwards. -/
theorem mem_or_mem_of_mem_addAll {s : ImportSet} {es : List ImportEntry} {f : ImportEntry}
    (h : f ∈ (s.addAll es).entries) : f ∈ s.entries ∨ f ∈ es := by
  induction es generalizing s with
  | nil => exact .inl h
  | cons e es ih =>
    rcases ih (s := s.add e) h with h | h
    · rcases (mem_add s e f).mp h with ⟨h, -⟩ | ⟨-, rfl⟩
      · exact .inl h
      · exact .inr List.mem_cons_self
    · exact .inr (List.mem_cons_of_mem _ h)

/-- Whether the entries of the package of the file are all static. -/
def SparesOwnPackage (s : ImportSet) : Prop :=
  ∀ e ∈ s.entries, e.isStatic = false → e.package ≠ s.package

/-- A set that spares its own package still does when an entry is added. -/
theorem SparesOwnPackage.add {s : ImportSet} (h : s.SparesOwnPackage) (e : ImportEntry) :
    (s.add e).SparesOwnPackage := by
  intro f hf hstatic
  rw [package_add]
  rcases (mem_add s e f).mp hf with ⟨hf, -⟩ | ⟨haccepts, rfl⟩
  · exact h f hf hstatic
  · simp only [accepts, hstatic, Bool.false_or, Bool.and_eq_true, bne_iff_ne] at haccepts
    exact haccepts.1

/-- A set that spares its own package still does when entries are added. -/
theorem SparesOwnPackage.addAll {s : ImportSet} (h : s.SparesOwnPackage)
    (es : List ImportEntry) : (s.addAll es).SparesOwnPackage :=
  addAll_induction (fun _ e hs => hs.add e) h es

/-- Single imports do not decide about what else the set takes. -/
theorem accepts_add_of_single {s : ImportSet} {e : ImportEntry} (he : e.IsSingle)
    (f : ImportEntry) : (s.add e).accepts f = s.accepts f := by
  -- whether `f` is taken depends on the import of its whole package, which a single import is not
  have hne : ImportEntry.wholePackage f.package ≠ e := (he.ne_wholePackage _).symm
  have hmem : ImportEntry.wholePackage f.package ∈ (s.add e).entries ↔
      ImportEntry.wholePackage f.package ∈ s.entries := by
    rw [mem_add]
    simp only [he.not_displaces, and_false, not_false_eq_true, and_true, hne, or_false]
  have hcontains : (s.add e).entries.contains (ImportEntry.wholePackage f.package) =
      s.entries.contains (ImportEntry.wholePackage f.package) := by
    rw [Bool.eq_iff_iff, List.contains_iff_mem, List.contains_iff_mem, hmem]
  unfold accepts
  rw [hcontains, package_add]

/-- What a set holds after single imports were added: what it held before, and those of them that
it takes. -/
theorem mem_addAll_of_single {s : ImportSet} {es : List ImportEntry}
    (hes : ∀ e ∈ es, e.IsSingle) (f : ImportEntry) :
    f ∈ (s.addAll es).entries ↔ f ∈ s.entries ∨ f ∈ es ∧ s.accepts f = true := by
  induction es generalizing s with
  | nil => simp [addAll]
  | cons e es ih =>
    have he : e.IsSingle := hes e List.mem_cons_self
    have hrest := @ih (s.add e) fun e he => hes e (List.mem_cons_of_mem _ he)
    show f ∈ ((s.add e).addAll es).entries ↔ _
    rw [hrest, mem_add, accepts_add_of_single he]
    simp only [he.not_displaces, and_false, not_false_eq_true, and_true, List.mem_cons]
    constructor
    · rintro ((hf | ⟨haccepts, rfl⟩) | ⟨hf, haccepts⟩)
      · exact .inl hf
      · exact .inr ⟨.inl rfl, haccepts⟩
      · exact .inr ⟨.inr hf, haccepts⟩
    · rintro (hf | ⟨rfl | hf, haccepts⟩)
      · exact .inl (.inl hf)
      · exact .inl (.inr ⟨haccepts, rfl⟩)
      · exact .inr ⟨hf, haccepts⟩

/-- The order in which single imports are added makes no difference to what the set holds. -/
theorem addAll_perm (s : ImportSet) {es es' : List ImportEntry} (hes : ∀ e ∈ es, e.IsSingle)
    (h : es.Perm es') : (s.addAll es).entries.Perm (s.addAll es').entries := by
  have hes' : ∀ e ∈ es', e.IsSingle := fun e he => hes e (h.mem_iff.mpr he)
  refine (List.perm_ext_iff_of_nodup (s.addAll es).nodup (s.addAll es').nodup).mpr ?_
  intro f
  rw [mem_addAll_of_single hes, mem_addAll_of_single hes', h.mem_iff]

end ImportSet

end JavaScribe
