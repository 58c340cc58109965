import JavaScribe.Import.Request
import JavaScribe.Proofs.ImportSets

/-!
# Import sets under requests

Entries are not checked when they are added.  Their wildcard flag may be set for a type that is
named, or missing for a star, so that an entry can remove others without keeping any out.  All the
same, what is not static never gets in for the file's own package, and the import of a whole package
is alone among the entries of its package that are not static (`ImportSet.Settled`).  Each request
keeps a set in this state, and in this state the answer to an addition says whether the entry is in
the set afterwards (`ImportSet.Settled.accepts_iff_mem_add`).
-/

set_option autoImplicit false

namespace JavaScribe

namespace ImportSet

open ImportEntry

variable {s : ImportSet}

/-- When an entry is accepted: if it is static, or if it is not of the own package and, as a single
type, not of a package that is imported as a whole. -/
theorem accepts_iff {e : ImportEntry} :
    s.accepts e = true ↔ e.isStatic = true ∨
      e.package ≠ s.package ∧ (e.wildcard = true ∨ wholePackage e.package ∉ s.entries) := by
  simp only [accepts, Bool.or_eq_true, Bool.and_eq_true, bne_iff_ne, Bool.not_eq_true',
    List.contains_eq_mem, decide_eq_false_iff_not]

/-- Whether a set has only static entries of the file's own package, and beside the import of a
whole package only static ones of that package. -/
structure Settled (s : ImportSet) : Prop where
  spares : s.SparesOwnPackage
  alone : ∀ e ∈ s.entries, e.isStatic = false → wholePackage e.package ∈ s.entries →
    e = wholePackage e.package

/-- A set without entries is settled. -/
theorem settled_empty (own : String) : (empty own).Settled where
  spares _ he := nomatch he
  alone _ he := nomatch he

/-- The import of a whole package removes what is there of it, and of what comes later it keeps out
the single imports, while another wildcard of the package removes it. -/
theorem Settled.add (h : s.Settled) (e : ImportEntry) : (s.add e).Settled where
  spares := h.spares.add e
  alone f hf hstatic hwhole := by
    rcases (mem_add s e f).mp hf with ⟨hf, hkept⟩ | ⟨haccepts, rfl⟩
    · rcases (mem_add s e _).mp hwhole with ⟨hwhole, -⟩ | ⟨haccepts, he⟩
      · exact h.alone f hf hstatic hwhole
      · have hdisplaces : e.Displaces f := by
          rw [← he]
          exact ⟨rfl, rfl, hstatic, rfl⟩
        exact absurd ⟨haccepts, hdisplaces⟩ hkept
    · rcases (mem_add s f _).mp hwhole with ⟨hwhole, hkept⟩ | ⟨-, he⟩
      · have hwildcard : f.wildcard = true := by
          rcases accepts_iff.mp haccepts with hstatic' | ⟨-, hwildcard | hnot⟩
          · rw [hstatic] at hstatic'
            cases hstatic'
          · exact hwildcard
          · exact absurd hwhole hnot
        exact absurd ⟨haccepts, hstatic, hwildcard, rfl, rfl⟩ hkept
      · exact he.symm

section Runs

variable {P : ImportSet → Prop} (hadd : ∀ s e, P s → P (s.add e))

include hadd

/-- Requests change a set by additions only. -/
theorem handle_induction (h : P s) (r : Request) : P (s.handle r).2 := by
  cases r with
  | add e => exact hadd s e h
  | register t => exact addAll_induction hadd h _
  | contains e => exact h
  | resolve threshold implicit => exact h
  | lines threshold implicit prefixes => exact h

/-- What holds of a set and is kept when an entry is added holds after any requests. -/
theorem handleAll_induction (h : P s) (requests : List Request) : P (s.handleAll requests) := by
  induction requests generalizing s with
  | nil => exact h
  | cons r requests ih => exact ih (handle_induction hadd h r)

end Runs

/-- A settled set stays settled, whatever is requested. -/
theorem Settled.handleAll (h : s.Settled) (requests : List Request) :
    (s.handleAll requests).Settled :=
  handleAll_induction (fun _ e hs => hs.add e) h requests

/-- Requests do not change the package of a set. -/
theorem package_handleAll (s : ImportSet) (requests : List Request) :
    (s.handleAll requests).package = s.package :=
  handleAll_induction (P := fun t => t.package = s.package)
    (fun t e ht => (package_add t e).trans ht) rfl requests

/-- A static entry is displaced by none. -/
theorem mem_add_of_static {f : ImportEntry} (hstatic : f.isStatic = true) (hf : f ∈ s.entries)
    (e : ImportEntry) : f ∈ (s.add e).entries := by
  refine (mem_add s e f).mpr (.inl ⟨hf, ?_⟩)
  rintro ⟨-, -, -, hnot, -⟩
  rw [hstatic] at hnot
  cases hnot

/-- A static entry stays in the set, whatever is requested. -/
theorem mem_handleAll_of_static {f : ImportEntry} (hstatic : f.isStatic = true)
    (hf : f ∈ s.entries) (requests : List Request) : f ∈ (s.handleAll requests).entries :=
  handleAll_induction (P := fun t => f ∈ t.entries)
    (fun _ e ht => mem_add_of_static hstatic ht e) hf requests

/-- A settled set takes an entry just when the entry is there afterwards: what is refused has not
been there before. -/
theorem Settled.accepts_iff_mem_add (h : s.Settled) (e : ImportEntry) :
    s.accepts e = true ↔ e ∈ (s.add e).entries := by
  rw [mem_add]
  constructor
  · exact fun haccepts => .inr ⟨haccepts, rfl⟩
  · rintro (⟨he, -⟩ | ⟨haccepts, -⟩)
    · refine accepts_iff.mpr ?_
      cases hstatic : e.isStatic with
      | true => exact .inl rfl
      | false =>
        refine .inr ⟨h.spares e he hstatic, ?_⟩
        by_cases hwhole : wholePackage e.package ∈ s.entries
        · rw [h.alone e he hstatic hwhole]
          exact .inl rfl
        · exact .inr hwhole
    · exact haccepts

section Repeated

/-- An entry decides nothing about itself. -/
theorem accepts_add_self (s : ImportSet) (e : ImportEntry) :
    (s.add e).accepts e = s.accepts e := by
  by_cases hsingle : e.IsSingle
  · exact accepts_add_of_single hsingle e
  · have hcases : e.isStatic = true ∨ e.wildcard = true := by
      rw [IsSingle, not_and_or, Bool.not_eq_false, Bool.not_eq_false] at hsingle
      exact hsingle
    rw [Bool.eq_iff_iff, accepts_iff, accepts_iff, package_add]
    rcases hcases with h | h <;> simp [h]

/-- Storing an entry that is there already changes nothing. -/
theorem store_of_mem {e : ImportEntry} (h : e ∈ s.entries) : s.store e = s := by
  rw [store, dif_pos h]

/-- What is stored into a cleared package is all that clearing it once more removes. -/
theorem clearPackage_store {e : ImportEntry} (hstatic : e.isStatic = false) :
    ((s.clearPackage e.package).store e).clearPackage e.package = s.clearPackage e.package := by
  have hnot : e ∉ (s.clearPackage e.package).entries := by
    rw [mem_clearPackage]
    rintro ⟨-, h | h⟩
    · rw [hstatic] at h
      cases h
    · exact h rfl
  rw [store, dif_neg hnot]
  simp [clearPackage, hstatic]

/-- Adding an entry twice is adding it once. -/
theorem add_add_self (s : ImportSet) (e : ImportEntry) : (s.add e).add e = s.add e := by
  cases haccepts : s.accepts e with
  | false =>
    have hadd : s.add e = s := by simp [add, haccepts]
    rw [hadd, hadd]
  | true =>
    have hagain : (s.add e).accepts e = true := (accepts_add_self s e).trans haccepts
    by_cases hclears : (!e.isStatic && e.wildcard) = true
    · have hstatic : e.isStatic = false := by
        rw [Bool.and_eq_true, Bool.not_eq_true'] at hclears
        exact hclears.1
      have hadd : ∀ t : ImportSet, t.accepts e = true →
          t.add e = (t.clearPackage e.package).store e := by
        intro t ht
        rw [add, if_pos ht, if_pos hclears]
      rw [hadd (s.add e) hagain, hadd s haccepts, clearPackage_store hstatic]
    · have hadd : ∀ t : ImportSet, t.accepts e = true → t.add e = t.store e := by
        intro t ht
        rw [add, if_pos ht, if_neg hclears]
      rw [hadd (s.add e) hagain]
      exact store_of_mem ((mem_add s e e).mpr (.inr ⟨haccepts, rfl⟩))

/-- A request that is repeated at once is answered as before and changes nothing. -/
theorem handle_add_again (s : ImportSet) (e : ImportEntry) :
    (s.handle (.add e)).2.handle (.add e) = s.handle (.add e) := by
  show (Answer.verdict ((s.add e).accepts e), (s.add e).add e) =
    (Answer.verdict (s.accepts e), s.add e)
  rw [accepts_add_self, add_add_self]

end Repeated

/-- In the set of a file after any requests, with any entries, all entries of the own package are
static, and where a whole package is imported so are all its other entries.  An addition is answered
by whether the entry is there afterwards, and if it is repeated, the answer and the set are the same
again.  A static entry stays, whatever is asked for later. -/
theorem requests_keep_promises (own : String) (requests : List Request) :
    let s := (empty own).handleAll requests
    (∀ e ∈ s.entries, e.isStatic = false → e.package ≠ own) ∧
      (∀ package, wholePackage package ∈ s.entries →
        ∀ e ∈ s.entries, e.isStatic = false → e.package = package → e = wholePackage package) ∧
      (∀ e, (s.handle (.add e)).1 =
        .verdict (decide (e ∈ (s.handle (.add e)).2.entries))) ∧
      (∀ e ∈ s.entries, e.isStatic = true → ∀ later, e ∈ (s.handleAll later).entries) ∧
      ∀ e, (s.handle (.add e)).2.handle (.add e) = s.handle (.add e) := by
  intro s
  have hsettled : s.Settled := (settled_empty own).handleAll requests
  have hown : s.package = own := package_handleAll (empty own) requests
  refine ⟨?own, ?whole, ?answer, ?static, handle_add_again s⟩
  case own =>
    intro e he hstatic
    rw [← hown]
    exact hsettled.spares e he hstatic
  case whole =>
    rintro package hwhole e he hstatic rfl
    exact hsettled.alone e he hstatic hwhole
  case answer =>
    intro e
    refine congrArg Answer.verdict ?_
    rw [Bool.eq_iff_iff, decide_eq_true_iff]
    exact hsettled.accepts_iff_mem_add e
  case static =>
    exact fun e he hstatic later => mem_handleAll_of_static hstatic he later

/-- A star without the flag is kept out by the import of the whole package.  A named type with the
flag takes the place of that import, and then the star gets in. -/
theorem requests_keep_promises_star :
    let star : ImportEntry := ⟨"java.util", "*", false, false⟩
    let flagged : ImportEntry := ⟨"java.util", "List", false, true⟩
    let hash : ImportEntry := ⟨"java.util", "Objects.*", true, true⟩
    let requests : List Request := [.add hash, .add (wholePackage "java.util"), .add star,
      .add flagged, .register (.named "Map" "java.util" [] false)]
    let s := (empty "shapes").handleAll requests
    s.entries = [hash, flagged, ⟨"java.util", "Map", false, false⟩] ∧
      (s.handle (.add star)).1 = .verdict (decide (star ∈ (s.handle (.add star)).2.entries)) ∧
      hash ∈ (s.handleAll [.add (wholePackage "java.util")]).entries := by
  intro star flagged hash requests s
  have hpromises := requests_keep_promises "shapes" requests
  refine ⟨by decide, hpromises.2.2.1 star, hpromises.2.2.2.1 hash ?_ rfl _⟩
  decide

end ImportSet

end JavaScribe
