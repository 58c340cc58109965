import JavaScribe.Proofs.CategoryTags
import JavaScribe.Proofs.CompilationUnitLayout
import JavaScribe.Proofs.ObstacleCauses
import JavaScribe.Source.Scribe

/-!
# Source files that are made

With settings that are of use and the built-in template, making the source file of a top-level type
cannot fail: the template is rendered whatever it is told, no tag of a category is refused when the
file is written, and nothing keeps the file from being written, provided that the machine has no
limits and annotations are of types with names.  A nested type gives a failed result, and nothing
else happens.  Neither changes the scribe, so that in a row of targets every result is the one that
its target has by itself (`Settings.resultFor`).
-/

set_option autoImplicit false

namespace JavaScribe

/-- The result for a target that meets no obstacle, with the built-in template. -/
def Settings.resultFor (s : Settings) (t : Target) : GenerationResult :=
  if t.path = [] then
    ⟨t.name, t.outputPath, s.format (s.sourceText t.unit), t.unit.warnings, none⟩
  else GenerationResult.failed t (.nested t.qualifiedName)

/-- A nested type is refused before anything is looked up or logged. -/
theorem Generator.generate_of_nested (g : Generator) {t : Target} (h : t.path ≠ []) :
    g.generate t = ⟨.error (.nested t.qualifiedName), [], g⟩ := by
  have hnested : ¬t.path.isEmpty = true := List.isEmpty_iff.not.mpr h
  rw [generate, if_neg hnested]

/-- The generator with the built-in template, which it has at hand from the start. -/
theorem Generator.generator_generate_builtin (s : Settings) (t : Target) :
    ((Generator.mk s (.library .builtin)).generate t).generator = ⟨s, .library .builtin⟩ := by
  by_cases hpath : t.path = []
  · rw [generate_builtin hpath]
  · rw [generate_of_nested _ hpath]

/-- With the built-in template every target gets its result, and the generator stays as it is. -/
theorem Generator.produce_builtin (s : Settings) (t : Target) :
    ∃ log, (Generator.mk s (.library .builtin)).produce t =
      .ok (s.resultFor t, log, ⟨s, .library .builtin⟩) := by
  by_cases hpath : t.path = []
  · rw [produce, render, generate_builtin hpath, Settings.resultFor, if_pos hpath]
    exact ⟨_, rfl⟩
  · rw [produce, render, generate_of_nested _ hpath, Settings.resultFor, if_neg hpath]
    exact ⟨_, rfl⟩

/-- Nothing of a nested type is written, so nothing can keep it from being written. -/
theorem Target.obstacle?_of_nested (r : SettingsReading) {t : Target} (h : t.path ≠ []) :
    t.obstacle? r = none := by
  have hnested : ¬t.path.isEmpty = true := List.isEmpty_iff.not.mpr h
  rw [obstacle?, if_neg hnested]

namespace Scribe

/-- The scribe with the built-in template. -/
def builtin (r : SettingsReading) : Scribe := ⟨r, ⟨r.settings, .library .builtin⟩⟩

/-- A configuration that is of use and names no directory of templates has the built-in template. -/
theorem ofConfig_unlimited (storage : Storage) {c : Config} (hfits : c.misfits = [])
    {custom : Json.Entries} (hcustom : c.custom.mapping? = some custom)
    (hdirectory : custom.get? TemplateOrigin.directoryKey = none) :
    ofConfig .unlimited storage c = .ok (builtin (c.reading .unlimited)) := by
  have horigin : TemplateOrigin.ofConfig storage c = .library .builtin := by
    rw [TemplateOrigin.ofConfig, hcustom]
    simp only [hdirectory]
  have hindent : (c.reading .unlimited).indentObstacle? = none :=
    SettingsReading.indentObstacle?_eq_none hfits rfl
  rw [ofConfig, withTemplates, horigin, hindent]
  rfl

section

variable {r : SettingsReading} {t : Target}

/-- What meets no obstacle is left to the generator, and the scribe stays as it is. -/
theorem render_builtin (hr : r.misfits = []) (h : t.obstacle? r = none) :
    (builtin r).render t = .ok ((builtin r).generator.render t, builtin r) := by
  have hobstacle : t.obstacle? (builtin r).reading = none := h
  have hending : (builtin r).reading.endingObstacle? = none := r.endingObstacle?_eq_none hr
  have hkept : ((builtin r).generator.generate t).generator = (builtin r).generator :=
    Generator.generator_generate_builtin r.settings t
  unfold render
  rw [hobstacle]
  simp only [hending, hkept]
  cases ((builtin r).generator.generate t).outcome <;> rfl

/-- What meets no obstacle gives its result and leaves the scribe as it is. -/
theorem produce_builtin (hr : r.misfits = []) (h : t.obstacle? r = none) :
    ∃ log, (builtin r).produce t = .ok (r.settings.resultFor t, log, builtin r) := by
  obtain ⟨log, hproduce⟩ := Generator.produce_builtin r.settings t
  have hgenerator : (builtin r).generator = ⟨r.settings, .library .builtin⟩ := rfl
  refine ⟨log, ?_⟩
  rw [produce, render_builtin hr h]
  simp only [hgenerator, hproduce]

/-- Targets that meet no obstacle give the results that each of them has by itself. -/
theorem produceAll_builtin (hr : r.misfits = []) {ts : List Target}
    (h : ∀ t ∈ ts, t.obstacle? r = none) :
    ∃ log, (builtin r).produceAll ts = .ok (ts.map r.settings.resultFor, log) := by
  induction ts with
  | nil => exact ⟨[], rfl⟩
  | cons t ts ih =>
    obtain ⟨log, hfirst⟩ := produce_builtin hr (h t List.mem_cons_self)
    obtain ⟨more, hrest⟩ := ih fun u hu => h u (List.mem_cons_of_mem t hu)
    refine ⟨log ++ more, ?_⟩
    rw [produceAll, hfirst]
    simp only [hrest, List.map_cons]

end

end Scribe

namespace Session

/-- Where constructors and methods are only ever asked to have annotations with names, nothing keeps
a type of a session that is reached from being written. -/
theorem obstacle?_eq_none_of_find? {actions : List Action}
    (hnamed : ∀ b ed, .edit b ed ∈ actions →
      ∀ x ∈ ed.executableAnnotations, x.name?.isSome = true)
    {r : SettingsReading} (hr : r.misfits = []) (hlimits : r.limits = .unlimited) {a : Address}
    {t : Target} (hfind : Target.find? (empty.performAll actions) a = some t) :
    t.obstacle? r = none := by
  obtain ⟨⟨u, v⟩, hfound, rfl⟩ := Option.map_eq_some_iff.mp hfind
  by_cases hpath : a.path = []
  · obtain ⟨hunit, hroot⟩ := find?_eq_some_iff.mp hfound
    -- the empty path leads to the root, so the type is all that the unit declares
    obtain rfl : u.root = v := by
      rw [hpath, CompilationUnit.find?, TypeDecl.find?] at hroot
      exact Option.some.inj hroot
    exact Target.obstacle?_eq_none hr hlimits fun e he =>
      annotations_of_mem_executables hnamed hunit he
  · exact Target.obstacle?_of_nested r hpath

/-- Making source files in a session that is reached, with settings that are of use, no directory
of templates and no limits, and with annotations of constructors and methods that have names.  All
tags of categories in a type, at every depth, are read as the categories that are kept, and reading
them again while the type is written cannot fail.  The source file of a top-level type is made: its
text comes from the template, and the result holds the formatted text and the warnings of the file.
A nested type gives a failed result with neither code nor warnings.  Several targets in a row give
the results that each of them gives by itself, whether or not some of them fail. -/
theorem source_files_made (actions : List Action)
    (hnamed : ∀ b ed, .edit b ed ∈ actions →
      ∀ x ∈ ed.executableAnnotations, x.name?.isSome = true)
    (a : Address) (t : Target) (hfind : Target.find? (empty.performAll actions) a = some t)
    (storage : Storage) (c : Config) (hfits : c.misfits = []) (custom : Json.Entries)
    (hcustom : c.custom.mapping? = some custom)
    (hdirectory : custom.get? TemplateOrigin.directoryKey = none) :
    t.type.Everywhere TypeDecl.KeepsCategories ∧
      (∀ style indent, t.type.linesByTag style indent = .ok (t.type.lines style indent)) ∧
      ∃ w, Scribe.ofConfig .unlimited storage c = .ok w ∧
        (a.path = [] → ∃ text log, (w.generator.generate t).outcome = .ok text ∧ w.produce t =
          .ok (⟨t.name, t.outputPath, c.settings.format text, t.unit.warnings, none⟩, log, w)) ∧
        (a.path ≠ [] → ∃ log, w.produce t = .ok
          (⟨t.name, t.outputPath, "", [], some (.nested t.qualifiedName)⟩, log, w)) ∧
        ∀ ts : List Target,
          (∀ u ∈ ts, ∃ b, Target.find? (empty.performAll actions) b = some u) →
          ∃ rs log, w.produceAll ts = .ok (rs, log) ∧
            List.Forall₂ (fun u r => ∃ log, w.produce u = .ok (r, log, w)) ts rs := by
  have hr : (c.reading .unlimited).misfits = [] := hfits
  have hnone : ∀ {b u}, Target.find? (empty.performAll actions) b = some u →
      u.obstacle? (c.reading .unlimited) = none := obstacle?_eq_none_of_find? hnamed hr rfl
  obtain ⟨log, hproduce⟩ := Scribe.produce_builtin hr (hnone hfind)
  obtain ⟨⟨u, v⟩, hfound, rfl⟩ := Option.map_eq_some_iff.mp hfind
  have hkeeps : v.Everywhere TypeDecl.KeepsCategories :=
    everywhere_of_find? TypeDecl.invariant_keepsCategories hfound
  refine ⟨hkeeps, v.linesByTag_eq hkeeps, Scribe.builtin (c.reading .unlimited),
    Scribe.ofConfig_unlimited storage hfits hcustom hdirectory, fun hpath => ?written,
    fun hpath => ?nested, fun ts hts => ?several⟩
  case written =>
    have hgenerate := Generator.generate_builtin (s := c.settings) (t := ⟨u, a.path, v⟩) hpath
    refine ⟨c.settings.sourceText u, log, congrArg Generated.outcome hgenerate, ?_⟩
    rw [hproduce, Settings.resultFor, if_pos hpath]
    rfl
  case nested =>
    refine ⟨log, ?_⟩
    rw [hproduce, Settings.resultFor, if_neg hpath]
    rfl
  case several =>
    have hfree : ∀ u ∈ ts, u.obstacle? (c.reading .unlimited) = none := by
      intro u hu
      obtain ⟨b, hb⟩ := hts u hu
      exact hnone hb
    obtain ⟨log, hall⟩ := Scribe.produceAll_builtin hr hfree
    refine ⟨_, log, hall, ?_⟩
    rw [List.forall₂_map_right_iff]
    exact List.forall₂_same.mpr fun t ht => Scribe.produce_builtin hr (hfree t ht)

/-- With the settings that nobody has set, the source file is made of a class with a field in a
section, a method that overrides an inherited one, and a nested interface.  In a row with the
interface, which fails, both results are the ones that each of them gives by itself. -/
theorem source_files_made_point :
    let override : Annotation := ⟨.named "Override" "java.lang" [] false, ""⟩
    let actions : List Action := [.openUnit "shapes" { kind := .classType, name := "Point" },
      .edit ⟨0, []⟩ (.field { type := .primitive "int", name := "x"
                              options := { category := "01_Data" } }),
      .edit ⟨0, []⟩ (.method { returnType := .primitive "int", name := "hashCode"
                               body := some "return x;"
                               options := { annotations := [override] } }),
      .edit ⟨0, []⟩ (.nestedType { kind := .interfaceType, name := "Visitor" })]
    let point := empty.performAll actions
    let c : Config := ⟨Setting.default, .value (.object [])⟩
    override.name?.isSome = true ∧ c.misfits = [] ∧ c.custom.mapping? = some [] ∧
      ∃ w t v text log, Scribe.ofConfig .unlimited (Storage.empty ["work"]) c = .ok w ∧
        Target.find? point ⟨0, []⟩ = some t ∧ Target.find? point ⟨0, ["Visitor"]⟩ = some v ∧
        w.produce t =
          .ok (⟨"Point", "shapes/Point.java", c.settings.format text, [], none⟩, log, w) ∧
        ∃ rs log, w.produceAll [v, t] = .ok (rs, log) ∧
          List.Forall₂ (fun u r => ∃ log, w.produce u = .ok (r, log, w)) [v, t] rs := by
  intro override actions point c
  have hnamed : ∀ b ed, .edit b ed ∈ actions →
      ∀ x ∈ ed.executableAnnotations, x.name?.isSome = true := by
    intro b ed hed x hx
    simp only [actions, List.mem_cons, List.not_mem_nil, or_false, reduceCtorEq, false_or,
      Action.edit.injEq] at hed
    rcases hed with ⟨-, rfl⟩ | ⟨-, rfl⟩ | ⟨-, rfl⟩
    · exact absurd hx List.not_mem_nil
    · rw [List.mem_singleton.mp hx]
      rfl
    · exact absurd hx List.not_mem_nil
  have htarget : (Target.find? point ⟨0, []⟩).map (fun t =>
      (t.name, t.outputPath, t.unit.warnings)) = some ("Point", "shapes/Point.java", []) := by
    decide +kernel
  obtain ⟨t, hfind, ht⟩ := Option.map_eq_some_iff.mp htarget
  obtain ⟨hname, hpath, hwarnings⟩ := by simpa only [Prod.mk.injEq] using ht
  have hvisitor : (Target.find? point ⟨0, ["Visitor"]⟩).isSome = true := by decide +kernel
  obtain ⟨v, hnested⟩ := Option.isSome_iff_exists.mp hvisitor
  obtain ⟨-, -, w, hscribe, hwritten, -, hall⟩ := source_files_made actions hnamed ⟨0, []⟩ t hfind
    (Storage.empty ["work"]) c (by decide) [] rfl rfl
  obtain ⟨text, log, -, hproduce⟩ := hwritten rfl
  rw [hname, hpath, hwarnings] at hproduce
  have hrow := hall [v, t] (by
    intro u hu
    simp only [List.mem_cons, List.not_mem_nil, or_false] at hu
    rcases hu with rfl | rfl
    · exact ⟨_, hnested⟩
    · exact ⟨_, hfind⟩)
  exact ⟨rfl, by decide, rfl, w, t, v, text, log, hscribe, hfind, hnested, hproduce, hrow⟩

end Session

end JavaScribe
