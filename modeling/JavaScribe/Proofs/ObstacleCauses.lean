import JavaScribe.Proofs.DeclaredExecutables
import JavaScribe.Proofs.WrittenTypes
import JavaScribe.Source.Obstacle

/-!
# Causes of obstacles

With settings that are of use, a file is kept from being written by little: by a type that is too
large to be spelled out, by an annotation without a name on a constructor or method that has no
documentation, or by banners that are too wide.  `Obstacle.Cause` lists these, and an obstacle that
is met anywhere in a tree has one of them in the tree (`Target.cause_of_obstacle?`).

Sizes are an obstacle only to a machine that has limits.  Without limits, nothing is left but
annotations without a name, and those are excluded by the types that annotations are declared with
(`Target.obstacle?_eq_none`).

Every function that looks for obstacles returns the first of several, so there is one lemma about
the first of several, and then one for each kind of part.
-/

set_option autoImplicit false

namespace JavaScribe

namespace Obstacle

/-- What an obstacle can be due to where these constructors and methods and these types are written,
in this style and on a machine with these limits. -/
inductive Cause (l : Text.Limits) (es : List Executable) (ts : List TypeExpr) (style : Style) :
    Obstacle → Prop where
  /-- An annotation has no name, and there is no documentation that could be inherited. -/
  | nameless {e : Executable} {a : Annotation} : e ∈ es → e.documentation = "" →
      a ∈ e.options.annotations → a.name? = none → Cause l es ts style .nameless
  /-- The text of a type does not keep within the limits. -/
  | type {t : TypeExpr} {o : Text.Oversize} : t ∈ ts → t.oversize? l = some o →
      Cause l es ts style (.oversize o)
  /-- A banner at some indentation does not keep within the limits. -/
  | banner {indent : String} {o : Text.Oversize} : style.bannerOversize? l indent = some o →
      Cause l es ts style (.oversize o)

/-- What is a cause stays one where more is written. -/
theorem Cause.mono {l : Text.Limits} {es es' : List Executable} {ts ts' : List TypeExpr}
    {style : Style} {o : Obstacle} (h : Cause l es ts style o) (hes : es ⊆ es') (hts : ts ⊆ ts') :
    Cause l es' ts' style o := by
  cases h with
  | nameless he hdoc ha hname => exact .nameless (hes he) hdoc ha hname
  | type ht ho => exact .type (hts ht) ho
  | banner h => exact .banner h

/-- The first of several obstacles is one of them. -/
theorem first_eq_some {os : List (Option Obstacle)} {o : Obstacle} (h : first os = some o) :
    some o ∈ os := by
  obtain ⟨x, hx, hxo⟩ := List.exists_of_findSome?_eq_some h
  exact hxo ▸ hx

section Types

variable {l : Text.Limits} {es : List Executable} {style : Style} {o : Obstacle}

/-- A list of types is too large because one of them is. -/
theorem exists_of_oversizeAny? {ts : List TypeExpr} {c : Text.Oversize}
    (h : TypeExpr.oversizeAny? l ts = some c) : ∃ t ∈ ts, t.oversize? l = some c := by
  induction ts with
  | nil => cases h
  | cons t ts ih =>
    rcases Option.or_eq_some_iff.mp h with h | ⟨-, h⟩
    · exact ⟨t, List.mem_cons_self, h⟩
    · obtain ⟨u, hu, hc⟩ := ih h
      exact ⟨u, List.mem_cons_of_mem t hu, hc⟩

/-- An obstacle among types is due to one of them. -/
theorem cause_of_ofTypes {ts : List TypeExpr} (h : ofTypes l ts = some o) :
    Cause l es ts style o := by
  obtain ⟨c, hc, rfl⟩ := Option.map_eq_some_iff.mp h
  obtain ⟨t, ht, hto⟩ := exists_of_oversizeAny? hc
  exact .type ht hto

/-- An obstacle among annotations is due to the type of one of them. -/
theorem cause_of_ofAnnotations {as : List Annotation} (h : ofAnnotations l as = some o) :
    Cause l es (as.map Annotation.type) style o := by
  obtain ⟨c, hc, rfl⟩ := Option.map_eq_some_iff.mp h
  obtain ⟨a, ha, hao⟩ := List.exists_of_findSome?_eq_some hc
  exact .type (List.mem_map_of_mem ha) hao

/-- An obstacle among type parameters is due to a bound of one of them. -/
theorem cause_of_ofTypeParameters {ps : List TypeParameter} (h : ofTypeParameters l ps = some o) :
    Cause l es (ps.flatMap TypeParameter.bounds) style o := by
  obtain ⟨c, hc, rfl⟩ := Option.map_eq_some_iff.mp h
  obtain ⟨p, hp, hpo⟩ := List.exists_of_findSome?_eq_some hc
  obtain ⟨t, ht, hto⟩ := exists_of_oversizeAny? hpo
  exact .type (List.mem_flatMap.mpr ⟨p, hp, ht⟩) hto

/-- An obstacle among parameters is due to the type of one of them or of its annotations. -/
theorem cause_of_ofParameters {ps : List Parameter} (h : ofParameters l ps = some o) :
    Cause l es (ps.flatMap Parameter.written) style o := by
  obtain ⟨c, hc, rfl⟩ := Option.map_eq_some_iff.mp h
  obtain ⟨p, hp, hpo⟩ := List.exists_of_findSome?_eq_some hc
  rcases Option.or_eq_some_iff.mp hpo with hannotation | ⟨-, htype⟩
  · obtain ⟨a, ha, hao⟩ := List.exists_of_findSome?_eq_some hannotation
    exact .type (List.mem_flatMap.mpr
      ⟨p, hp, List.mem_cons_of_mem _ (List.mem_map_of_mem ha)⟩) hao
  · exact .type (List.mem_flatMap.mpr ⟨p, hp, List.mem_cons_self⟩) htype

end Types

end Obstacle

namespace Field

/-- A field is kept from being written by a type that it is declared with. -/
theorem cause_of_obstacle? {l : Text.Limits} {f : Field} {es : List Executable} {style : Style}
    {o : Obstacle} (h : f.obstacle? l = some o) : Obstacle.Cause l es f.written style o := by
  have hmem := Obstacle.first_eq_some h
  simp only [List.mem_cons, List.not_mem_nil, or_false] at hmem
  rcases hmem with h | h
  · exact (Obstacle.cause_of_ofAnnotations h.symm).mono (List.Subset.refl es)
      (List.subset_cons_self _ _)
  · refine (Obstacle.cause_of_ofTypes h.symm).mono (List.Subset.refl es) ?_
    simp [written]

end Field

namespace Executable

/-- An annotation without a name is only met where there is no documentation. -/
theorem exists_nameless_of_meetsNameless {e : Executable} (h : e.meetsNameless = true) :
    e.documentation = "" ∧ ∃ a ∈ e.options.annotations, a.name? = none := by
  unfold meetsNameless at h
  rw [Bool.and_eq_true, String.isEmpty_iff] at h
  obtain ⟨hdoc, hhead⟩ := h
  obtain ⟨a, ha, hname⟩ := (Option.any_eq_true _ _).mp hhead
  have hmem : a ∈ e.options.annotations :=
    (List.dropWhile_subset _) (List.mem_of_head? ha)
  exact ⟨hdoc, a, hmem, Option.isNone_iff_eq_none.mp hname⟩

/-- A result is kept from being written by its type. -/
theorem cause_of_resultObstacle? {l : Text.Limits} {e : Executable} {es : List Executable}
    {style : Style} {o : Obstacle} (h : e.resultObstacle? l = some o) :
    Obstacle.Cause l es e.form.written style o := by
  unfold resultObstacle? at h
  split at h
  · cases h
  · next hform =>
    rw [hform]
    exact Obstacle.cause_of_ofTypes h

/-- A constructor or method is kept from being written by its own annotations or by a type that it
is declared with. -/
theorem cause_of_obstacle? {l : Text.Limits} {e : Executable} {style : Style} {o : Obstacle}
    (h : e.obstacle? l = some o) : Obstacle.Cause l [e] e.written style o := by
  have hsame : [e] ⊆ [e] := List.Subset.refl _
  have hmem := Obstacle.first_eq_some h
  simp only [List.mem_cons, List.not_mem_nil, or_false] at hmem
  rcases hmem with h | h | h | h | h
  · obtain ⟨hmeets, rfl⟩ : e.meetsNameless = true ∧ o = .nameless := by
      split at h
      · next hmeets => exact ⟨hmeets, Option.some.inj h⟩
      · cases h
    obtain ⟨hdoc, a, ha, hname⟩ := exists_nameless_of_meetsNameless hmeets
    exact .nameless List.mem_cons_self hdoc ha hname
  · exact (Obstacle.cause_of_ofAnnotations h.symm).mono hsame fun t ht => by
      simp only [written, List.mem_append, ht, or_true]
  · exact (Obstacle.cause_of_ofTypeParameters h.symm).mono hsame fun t ht => by
      simp only [written, List.mem_append, ht, or_true, true_or]
  · exact (cause_of_resultObstacle? h.symm).mono hsame fun t ht => by
      simp only [written, List.mem_append, ht, true_or]
  · exact (Obstacle.cause_of_ofParameters h.symm).mono hsame fun t ht => by
      simp only [written, List.mem_append, ht, or_true, true_or]

end Executable

/-- The line that a type is declared with is kept from being written by a type in it. -/
theorem TypeHeader.cause_of_obstacle? {l : Text.Limits} {h : TypeHeader} {es : List Executable}
    {style : Style} {o : Obstacle} (ho : h.obstacle? l = some o) :
    Obstacle.Cause l es h.written style o := by
  have hsame : es ⊆ es := List.Subset.refl _
  have hmem := Obstacle.first_eq_some ho
  simp only [List.mem_cons, List.not_mem_nil, or_false] at hmem
  rcases hmem with h | h | h
  · exact (Obstacle.cause_of_ofTypeParameters h.symm).mono hsame fun t ht => by
      simp only [written, List.mem_append, ht, or_true]
  · exact (Obstacle.cause_of_ofTypes h.symm).mono hsame fun t ht => by
      simp only [written, List.mem_append, ht, true_or]
  · exact (Obstacle.cause_of_ofTypes h.symm).mono hsame fun t ht => by
      simp only [written, List.mem_append, ht, or_true, true_or]

/-! ## Settings -/

namespace SettingsReading

variable {r : SettingsReading}

/-- Where all settings are of use, none of them is an obstacle. -/
theorem misfit?_eq_none (hr : r.misfits = []) (s : Setting) : r.misfit? s = none := by
  rw [misfit?, hr]
  rfl

/-- Where all settings are of use, the lines of a file can be joined. -/
theorem endingObstacle?_eq_none (hr : r.misfits = []) : r.endingObstacle? = none :=
  misfit?_eq_none hr .lineEnding

/-- Where all settings are of use, the imports of every unit can be written. -/
theorem importObstacle?_eq_none (hr : r.misfits = []) (u : CompilationUnit) :
    r.importObstacle? u = none := by
  simp only [importObstacle?, misfit?_eq_none hr, ite_self]
  rfl

/-- A tab is written whatever the limits are, and without limits every unit of indentation is. -/
theorem indentObstacle?_eq_none (hr : r.misfits = []) (hlimits : r.limits = .unlimited) :
    r.indentObstacle? = none := by
  unfold indentObstacle? Settings.indentOversize?
  simp only [misfit?_eq_none hr, hlimits, Text.oversize?_unlimited, ite_self, Option.map_none,
    Option.or_none]

/-- Where all settings are of use, banners are kept from being written by their own size. -/
theorem cause_of_bannerObstacle? (hr : r.misfits = []) {indent : String} {es : List Executable}
    {ts : List TypeExpr} {o : Obstacle} (h : r.bannerObstacle? indent = some o) :
    Obstacle.Cause r.limits es ts r.settings.style o := by
  rw [bannerObstacle?, misfit?_eq_none hr, Option.none_or] at h
  obtain ⟨c, hc, rfl⟩ := Option.map_eq_some_iff.mp h
  exact .banner hc

end SettingsReading

/-! ## Trees -/

namespace Passage

/-- A row of members is kept from being written by a banner between them or by one of them. -/
theorem cause_of_sectionObstacle? {l : Text.Limits} {es : List Executable} {ts : List TypeExpr}
    {style : Style} {o : Obstacle} {banner : Option Obstacle} {ps : List Passage}
    (hbanner : banner = some o → Obstacle.Cause l es ts style o)
    (hps : ∀ p ∈ ps, p.obstacle? = some o → Obstacle.Cause l es ts style o) {previous : String}
    (h : sectionObstacle? banner previous ps = some o) : Obstacle.Cause l es ts style o := by
  induction ps generalizing previous with
  | nil => cases h
  | cons p ps ih =>
    have hmem := Obstacle.first_eq_some h
    simp only [List.mem_cons, List.not_mem_nil, or_false] at hmem
    rcases hmem with h | h | h
    · split at h
      · cases h
      · exact hbanner h.symm
    · exact hps p List.mem_cons_self h.symm
    · exact ih (fun q hq => hps q (List.mem_cons_of_mem p hq)) h.symm

/-- A type is kept from being written by what it is declared with, by a banner or by a member. -/
theorem cause_of_typeObstacle? {r : SettingsReading} (hr : r.misfits = []) {indent : String}
    {header : TypeHeader} {ps : List Passage} {es : List Executable} {ts : List TypeExpr}
    {o : Obstacle} (hts : header.written ⊆ ts)
    (hps : ∀ p ∈ ps, p.obstacle? = some o → Obstacle.Cause r.limits es ts r.settings.style o)
    (h : typeObstacle? r indent header ps = some o) :
    Obstacle.Cause r.limits es ts r.settings.style o := by
  have hsame : es ⊆ es := List.Subset.refl _
  have hmem := Obstacle.first_eq_some h
  simp only [List.mem_cons, List.not_mem_nil, or_false] at hmem
  rcases hmem with h | h | h
  · refine (Obstacle.cause_of_ofAnnotations h.symm).mono hsame fun t ht => hts ?_
    simp only [TypeHeader.written, List.mem_append, ht, or_true, true_or]
  · exact (header.cause_of_obstacle? h.symm).mono hsame hts
  · refine cause_of_sectionObstacle? (r.cause_of_bannerObstacle? hr) (fun p hp => ?_) h.symm
    exact hps p ((List.mergeSort_perm ps _).mem_iff.mp hp)

end Passage

namespace Member

mutual
/-- A member is kept from being written by something in it. -/
theorem cause_of_passage {r : SettingsReading} (hr : r.misfits = []) {o : Obstacle} :
    ∀ (indent : String) (m : Member), (m.passage r indent).obstacle? = some o →
      Obstacle.Cause r.limits m.executables m.written r.settings.style o
  | _, .field f, h => f.cause_of_obstacle? h
  | _, .executable e, h => e.cause_of_obstacle? h
  | indent, .type header identities members, h => by
    -- a nested type is written further in, which matters to nothing but its banners
    refine Passage.cause_of_typeObstacle? hr (List.subset_append_left _ _) (fun p hp hpo => ?_) h
    exact (cause_of_passages hr _ members p hp hpo).mono (List.Subset.refl _)
      (List.subset_append_right _ _)

/-- What keeps one of several members from being written is something in them. -/
theorem cause_of_passages {r : SettingsReading} (hr : r.misfits = []) {o : Obstacle} :
    ∀ (indent : String) (ms : List Member), ∀ p ∈ passages r indent ms, p.obstacle? = some o →
      Obstacle.Cause r.limits (executablesIn ms) (writtenIn ms) r.settings.style o
  | _, [], p, hp, _ => absurd hp List.not_mem_nil
  | indent, m :: ms, p, hp, hpo => by
    rcases List.mem_cons.mp hp with rfl | hp
    · exact (cause_of_passage hr indent m hpo).mono (List.subset_append_left _ _)
        (List.subset_append_left _ _)
    · exact (cause_of_passages hr indent ms p hp hpo).mono (List.subset_append_right _ _)
        (List.subset_append_right _ _)
end

end Member

/-- Where all settings are of use, whatever keeps a file from being written has its cause in the
types and annotations of the tree, or in banners that are too wide. -/
theorem Target.cause_of_obstacle? {r : SettingsReading} (hr : r.misfits = []) {t : Target}
    {o : Obstacle} (h : t.obstacle? r = some o) :
    Obstacle.Cause r.limits t.type.executables t.type.written r.settings.style o := by
  unfold obstacle? at h
  split at h
  · have hmem := Obstacle.first_eq_some h
    simp only [List.mem_cons, List.not_mem_nil, or_false] at hmem
    rcases hmem with h | h
    · rw [r.importObstacle?_eq_none hr] at h
      cases h
    · refine Passage.cause_of_typeObstacle? hr (List.subset_append_left _ _)
        (fun p hp hpo => ?_) h.symm
      exact (Member.cause_of_passages hr _ t.type.members p hp hpo).mono (List.Subset.refl _)
        (List.subset_append_right _ _)
  · cases h

/-- Without limits, and where all settings are of use and all annotations of constructors and
methods have names, nothing keeps a file from being written. -/
theorem Target.obstacle?_eq_none {r : SettingsReading} (hr : r.misfits = [])
    (hlimits : r.limits = .unlimited) {t : Target}
    (hnamed : ∀ e ∈ t.type.executables, ∀ a ∈ e.options.annotations, a.name?.isSome = true) :
    t.obstacle? r = none := by
  by_contra hobstacle
  obtain ⟨o, ho⟩ := Option.ne_none_iff_exists'.mp hobstacle
  have hcause := cause_of_obstacle? hr ho
  rw [hlimits] at hcause
  cases hcause with
  | nameless he _ ha hname =>
    have hsome := hnamed _ he _ ha
    rw [hname] at hsome
    cases hsome
  | type _ hsize =>
    rw [TypeExpr.oversize?_unlimited] at hsize
    cases hsize
  | banner hsize =>
    rw [Style.bannerOversize?, Text.oversize?_unlimited] at hsize
    cases hsize

end JavaScribe
