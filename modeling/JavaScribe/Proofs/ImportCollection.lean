import JavaScribe.Proofs.ImportSets
import Mathlib.Data.List.Induction

/-!
# Collected imports

The import of a whole package removes single imports that came before it and keeps out those that
come after it, while static imports of the same package survive both, and nothing of the file's own
package gets in unless it is static.  So what is left of a list of entries depends on their order at
every step, but not in the end: `ImportEntry.Collected` says what is left without speaking of any
order, and adding one entry more changes it just as it changes the set
(`ImportEntry.collected_concat_iff`).

All this is about entries whose wildcard flag is set just when their type name is a star.  An entry
with another name and the flag set would remove the single imports of its package and keep none out.
-/

set_option autoImplicit false

namespace JavaScribe

namespace ImportEntry

/-- Whether one of the entries imports a package as a whole. -/
def ImportsWhole (es : List ImportEntry) (package : String) : Prop :=
  ∃ e ∈ es, e.isStatic = false ∧ e.wildcard = true ∧ e.package = package

/-- What is left of the entries when they are collected for a file of the package `own`: those that
are static, the whole packages other than `own`, and single types of all further packages. -/
inductive Collected (own : String) (es : List ImportEntry) : ImportEntry → Prop where
  | static {e : ImportEntry} : e ∈ es → e.isStatic = true → Collected own es e
  | whole {package : String} : package ≠ own → ImportsWhole es package →
    Collected own es (wholePackage package)
  | single {e : ImportEntry} : e ∈ es → e.IsSingle → e.package ≠ own →
    ¬ImportsWhole es e.package → Collected own es e

variable {own : String} {es : List ImportEntry}

/-- With one more entry, a package is imported as a whole if it was before or if the entry does
it. -/
theorem importsWhole_concat {e : ImportEntry} {package : String} :
    ImportsWhole (es ++ [e]) package ↔
      ImportsWhole es package ∨ e.isStatic = false ∧ e.wildcard = true ∧ e.package = package := by
  simp only [ImportsWhole, List.mem_append, List.mem_singleton, or_and_right, exists_or,
    exists_eq_left]

/-- What is collected: static entries, whole packages other than the own one, and single types of
packages that are not imported as a whole. -/
theorem collected_iff {f : ImportEntry} :
    Collected own es f ↔
      (f.isStatic = true ∧ f ∈ es) ∨
      (f = wholePackage f.package ∧ f.package ≠ own ∧ ImportsWhole es f.package) ∨
      (f.IsSingle ∧ f ∈ es ∧ f.package ≠ own ∧ ¬ImportsWhole es f.package) := by
  constructor
  · rintro (⟨hmem, hstatic⟩ | ⟨hown, hwhole⟩ | ⟨hmem, hsingle, hown, hwhole⟩)
    · exact .inl ⟨hstatic, hmem⟩
    · exact .inr (.inl ⟨rfl, hown, hwhole⟩)
    · exact .inr (.inr ⟨hsingle, hmem, hown, hwhole⟩)
  · rintro (⟨hstatic, hmem⟩ | ⟨hf, hown, hwhole⟩ | ⟨hsingle, hmem, hown, hwhole⟩)
    · exact .static hmem hstatic
    · rw [hf]
      exact .whole hown hwhole
    · exact .single hmem hsingle hown hwhole

/-- A whole package is collected if it is imported as such and not the own one. -/
theorem collected_wholePackage_iff {package : String} :
    Collected own es (wholePackage package) ↔ package ≠ own ∧ ImportsWhole es package := by
  simp [collected_iff, wholePackage, IsSingle]

/-- What is left of entries depends on which entries there are, not on their order, nor on how often
each of them comes. -/
theorem collected_congr {es' : List ImportEntry} (h : ∀ e, e ∈ es' ↔ e ∈ es) (f : ImportEntry) :
    Collected own es' f ↔ Collected own es f := by
  simp only [collected_iff, ImportsWhole, h]

/-- Whether an entry is taken when the given entries have been collected already. -/
def TakenAfter (own : String) (es : List ImportEntry) (e : ImportEntry) : Prop :=
  e.isStatic = true ∨ e.package ≠ own ∧ (e.wildcard = true ∨ ¬ImportsWhole es e.package)

/-- Entries other than wildcards displace nothing and keep nothing out. -/
theorem collected_concat_of_not_whole {e : ImportEntry}
    (he : e.isStatic = true ∨ e.wildcard = false) (f : ImportEntry) :
    Collected own (es ++ [e]) f ↔ Collected own es f ∨ TakenAfter own es e ∧ f = e := by
  have hwhole : ∀ package, ImportsWhole (es ++ [e]) package ↔ ImportsWhole es package := by
    intro package
    rw [importsWhole_concat, or_iff_left]
    rintro ⟨hstatic, hwildcard, -⟩
    rcases he with he | he
    · rw [hstatic] at he
      cases he
    · rw [hwildcard] at he
      cases he
  simp only [collected_iff, hwhole, List.mem_append, List.mem_singleton]
  constructor
  · rintro (⟨hstatic, hmem | rfl⟩ | h | ⟨hsingle, hmem | rfl, hown, hnot⟩)
    · exact .inl (.inl ⟨hstatic, hmem⟩)
    · exact .inr ⟨.inl hstatic, rfl⟩
    · exact .inl (.inr (.inl h))
    · exact .inl (.inr (.inr ⟨hsingle, hmem, hown, hnot⟩))
    · exact .inr ⟨.inr ⟨hown, .inr hnot⟩, rfl⟩
  · rintro ((⟨hstatic, hmem⟩ | h | ⟨hsingle, hmem, hown, hnot⟩) | ⟨htaken, rfl⟩)
    · exact .inl ⟨hstatic, .inl hmem⟩
    · exact .inr (.inl h)
    · exact .inr (.inr ⟨hsingle, .inl hmem, hown, hnot⟩)
    · cases hstatic : f.isStatic with
      | true => exact .inl ⟨rfl, .inr rfl⟩
      | false =>
        have hwildcard : f.wildcard = false := he.resolve_left (by simp [hstatic])
        simp only [TakenAfter, hstatic, hwildcard, Bool.false_eq_true, false_or] at htaken
        exact .inr (.inr ⟨⟨hstatic, hwildcard⟩, .inr rfl, htaken⟩)

/-- The import of another package takes the place of what was not static in it. -/
theorem collected_concat_wholePackage {package : String} (hown : package ≠ own)
    (f : ImportEntry) :
    Collected own (es ++ [wholePackage package]) f ↔
      Collected own es f ∧ ¬(f.isStatic = false ∧ f.package = package) ∨
        f = wholePackage package := by
  have hwhole : ∀ q, ImportsWhole (es ++ [wholePackage package]) q ↔
      ImportsWhole es q ∨ package = q := by
    intro q
    simp only [importsWhole_concat, wholePackage, true_and]
  simp only [collected_iff, hwhole, List.mem_append, List.mem_singleton, not_or]
  constructor
  · rintro (⟨hstatic, hmem | rfl⟩ | ⟨hf, hne, hmem | rfl⟩ | ⟨hsingle, hmem | rfl, hne, hnot⟩)
    · exact .inl ⟨.inl ⟨hstatic, hmem⟩, fun h => by simp [hstatic] at h⟩
    · exact .inr rfl
    · by_cases hp : f.package = package
      · exact .inr (hp ▸ hf)
      · exact .inl ⟨.inr (.inl ⟨hf, hne, hmem⟩), fun h => hp h.2⟩
    · exact .inr hf
    · exact .inl ⟨.inr (.inr ⟨hsingle, hmem, hne, hnot.1⟩), fun h => hnot.2 h.2.symm⟩
    · exact .inr rfl
  · rintro (⟨⟨hstatic, hmem⟩ | ⟨hf, hne, hmem⟩ | ⟨hsingle, hmem, hne, hnot⟩, hkept⟩ | rfl)
    · exact .inl ⟨hstatic, .inl hmem⟩
    · exact .inr (.inl ⟨hf, hne, .inl hmem⟩)
    · exact .inr (.inr ⟨hsingle, .inl hmem, hne, hnot, fun h => hkept ⟨hsingle.1, h.symm⟩⟩)
    · exact .inr (.inl ⟨rfl, hown, .inr rfl⟩)

/-- The import of the own package makes no difference to what is collected. -/
theorem collected_concat_ownPackage (f : ImportEntry) :
    Collected own (es ++ [wholePackage own]) f ↔ Collected own es f := by
  have hwhole : ∀ q, q ≠ own → (ImportsWhole (es ++ [wholePackage own]) q ↔ ImportsWhole es q) := by
    intro q hq
    rw [importsWhole_concat, or_iff_left]
    exact fun h => hq h.2.2.symm
  rw [collected_iff, collected_iff]
  by_cases hown : f.package = own
  · simp only [hown, ne_eq, not_true_eq_false, false_and, and_false, or_false, List.mem_append,
      List.mem_singleton]
    refine and_congr_right fun hstatic => or_iff_left ?_
    rintro rfl
    cases hstatic
  · have hne : f ≠ wholePackage own := by
      rintro rfl
      exact hown rfl
    simp only [hwhole _ hown, List.mem_append, List.mem_singleton, hne, or_false]

/-- What one entry more changes: it is left itself if it is taken, and then what it displaces is
left no longer. -/
theorem collected_concat_iff {e : ImportEntry} (he : e.wildcard = true → e.typeName = "*")
    (f : ImportEntry) :
    Collected own (es ++ [e]) f ↔
      Collected own es f ∧ ¬(TakenAfter own es e ∧ e.Displaces f) ∨
        TakenAfter own es e ∧ f = e := by
  by_cases hwhole : e.isStatic = true ∨ e.wildcard = false
  · have hdisplaces : ¬e.Displaces f := by
      rintro ⟨hstatic, hwildcard, -⟩
      simp [hstatic, hwildcard] at hwhole
    simp only [collected_concat_of_not_whole hwhole, hdisplaces, and_false, not_false_eq_true,
      and_true]
  · simp only [not_or, Bool.not_eq_true, Bool.not_eq_false] at hwhole
    obtain ⟨hstatic, hwildcard⟩ := hwhole
    obtain ⟨package, name, isStatic, wildcard⟩ := e
    obtain rfl : isStatic = false := hstatic
    obtain rfl : wildcard = true := hwildcard
    obtain rfl : name = "*" := he rfl
    show Collected own (es ++ [wholePackage package]) f ↔ _
    by_cases hown : package = own
    · subst hown
      simp only [collected_concat_ownPackage, TakenAfter, Bool.false_eq_true, ne_eq,
        not_true_eq_false, false_and, or_self, not_false_eq_true, and_true, or_false]
    · rw [collected_concat_wholePackage hown]
      simp only [TakenAfter, Displaces, wholePackage, hown, Bool.false_eq_true, ne_eq,
        not_false_eq_true, true_and, true_or, false_or]

end ImportEntry

namespace ImportSet

open ImportEntry

/-- Of several entries the last one is added last. -/
theorem addAll_concat (s : ImportSet) (es : List ImportEntry) (e : ImportEntry) :
    s.addAll (es ++ [e]) = (s.addAll es).add e := by
  simp only [addAll, List.foldl_append, List.foldl_cons, List.foldl_nil]

/-- If a set holds what is left of the entries so far, it takes an entry just when `TakenAfter` says
so. -/
theorem accepts_iff_takenAfter {s : ImportSet} {es : List ImportEntry}
    (hs : ∀ f, f ∈ s.entries ↔ Collected s.package es f) (e : ImportEntry) :
    s.accepts e = true ↔ TakenAfter s.package es e := by
  simp only [accepts, Bool.or_eq_true, Bool.and_eq_true, bne_iff_ne, Bool.not_eq_true',
    TakenAfter]
  refine or_congr_right (and_congr_right fun hne => or_congr_right ?_)
  rw [← Bool.not_eq_true, List.contains_iff_mem, hs, collected_wholePackage_iff]
  simp only [hne, ne_eq, not_false_eq_true, true_and]

/-- If all flags are consistent, adding entries to an empty set collects them. -/
theorem mem_addAll_empty_iff {own : String} {es : List ImportEntry}
    (hes : ∀ e ∈ es, e.wildcard = true → e.typeName = "*") (f : ImportEntry) :
    f ∈ ((empty own).addAll es).entries ↔ Collected own es f := by
  induction es using List.reverseRecOn generalizing f with
  | nil =>
    simp [addAll, empty, collected_iff, ImportsWhole]
  | append_singleton es e ih =>
    have hpackage : ((empty own).addAll es).package = own := package_addAll (empty own) es
    have hbefore := ih fun e he => hes e (List.mem_append_left _ he)
    have hholds : ∀ f, f ∈ ((empty own).addAll es).entries ↔
        Collected ((empty own).addAll es).package es f := by
      intro f
      rw [hpackage, hbefore]
    have htaken := accepts_iff_takenAfter hholds e
    rw [hpackage] at htaken
    rw [addAll_concat, mem_add, hbefore, htaken,
      collected_concat_iff (hes e (List.mem_append_right _ (List.mem_singleton_self e)))]

/-- Adding entries, whose wildcard flags are set just when their type names are stars, to the empty
set of a file leaves the static ones, the import of every other package that comes as a whole, and
the single imports of all packages but these and the own one.  Lists with the same entries leave the
same set, whatever the order of the entries and however often each of them comes. -/
theorem addAll_empty_collects (own : String) (es : List ImportEntry)
    (hes : ∀ e ∈ es, e.wildcard = true ↔ e.typeName = "*") :
    (∀ f, f ∈ ((empty own).addAll es).entries ↔ Collected own es f) ∧
      ∀ es', (∀ e, e ∈ es' ↔ e ∈ es) →
        ((empty own).addAll es').entries.Perm ((empty own).addAll es).entries := by
  have hcollected : ∀ f, f ∈ ((empty own).addAll es).entries ↔ Collected own es f :=
    mem_addAll_empty_iff fun e he => (hes e he).mp
  refine ⟨hcollected, fun es' hsame => ?_⟩
  have hes' : ∀ e ∈ es', e.wildcard = true → e.typeName = "*" :=
    fun e he => (hes e ((hsame e).mp he)).mp
  refine (List.perm_ext_iff_of_nodup (nodup _) (nodup _)).mpr ?_
  intro f
  rw [mem_addAll_empty_iff hes', hcollected, collected_congr hsame]

/-- A package that is imported as a whole between two mentions of its types leaves neither of them,
but a static import of it; of the own package nothing is left. -/
theorem addAll_empty_collects_utilities :
    let es : List ImportEntry := [⟨"java.util", "List", false, false⟩,
      ⟨"java.util", "Objects.hash", true, false⟩, ⟨"java.util", "*", false, true⟩,
      ⟨"shapes", "Point", false, false⟩, ⟨"java.util", "Map", false, false⟩,
      ⟨"shapes", "*", false, true⟩, ⟨"java.io", "File", false, false⟩]
    (∀ e ∈ es, e.wildcard = true ↔ e.typeName = "*") ∧
      ((empty "shapes").addAll es).entries = [⟨"java.util", "Objects.hash", true, false⟩,
        ⟨"java.util", "*", false, true⟩, ⟨"java.io", "File", false, false⟩] ∧
      (∀ f, f ∈ ((empty "shapes").addAll es).entries ↔ Collected "shapes" es f) ∧
      ((empty "shapes").addAll (es.reverse ++ es)).entries.Perm
        ((empty "shapes").addAll es).entries := by
  intro es
  have hes : ∀ e ∈ es, e.wildcard = true ↔ e.typeName = "*" := by decide
  have hcollects := addAll_empty_collects "shapes" es hes
  refine ⟨hes, by decide, hcollects.1, hcollects.2 _ fun e => ?_⟩
  rw [List.mem_append, List.mem_reverse, or_self]

end ImportSet

end JavaScribe
