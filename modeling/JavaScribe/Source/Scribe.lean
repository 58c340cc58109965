import JavaScribe.Source.Generator
import JavaScribe.Source.Obstacle

/-!
# Scribes

A scribe makes source files for a configuration that is taken as it is.  It is a generator that
meets obstacles: before a file is put together it shows whether all of it can be written, and at the
end whether its lines can be joined.  An obstacle is not the fault of a type alone, so it leaves no
result, neither for its target nor for those that come after it.
-/

set_option autoImplicit false

namespace JavaScribe

/-- Why there is no result. -/
inductive Halt where
  /-- Something keeps the file from being written. -/
  | obstacle (o : Obstacle)
  /-- The settings or templates themselves are at fault. -/
  | error (e : GenerateError)
deriving DecidableEq

/-- A generator with the settings that it was made from, as far as they could be read. -/
structure Scribe where
  reading : SettingsReading
  generator : Generator

namespace Scribe

/-- The scribe of a configuration with templates of its own, on a machine with the given limits.
The unit of indentation is written once and for all, so it has to be free of obstacles. -/
def withTemplates (limits : Text.Limits) (templates : TemplateOrigin) (c : Config) :
    Except Obstacle Scribe :=
  match (c.reading limits).indentObstacle? with
  | some o => .error o
  | none => .ok ⟨c.reading limits, ⟨c.settings, templates⟩⟩

/-- The scribe of a configuration, with the templates that it asks for. -/
def ofConfig (limits : Text.Limits) (storage : Storage) (c : Config) : Except Obstacle Scribe :=
  withTemplates limits (.ofConfig storage c) c

/-- Makes the formatted source text of a target, unless there is an obstacle. -/
def render (w : Scribe) (t : Target) : Except (Obstacle × Log) (Generated × Scribe) :=
  match t.obstacle? w.reading with
  | some o => .error (o, [Generator.renderingRecord t])
  | none =>
    let made := w.generator.generate t
    match made.outcome, w.reading.endingObstacle? with
    | .ok _, some o => .error (o, made.log)
    | _, _ => .ok (w.generator.render t, { w with generator := made.generator })

/-- Makes the result for one target. -/
def produce (w : Scribe) (t : Target) : Except (Halt × Log) (GenerationResult × Log × Scribe) :=
  match w.render t with
  | .error (o, log) => .error (.obstacle o, log)
  | .ok (_, after) =>
    match w.generator.produce t with
    | .error (e, log) => .error (.error e, log)
    | .ok (r, log, _) => .ok (r, log, after)

/-- Makes the results for several targets in turn. -/
def produceAll (w : Scribe) : List Target → Except (Halt × Log) (List GenerationResult × Log)
  | [] => .ok ([], [])
  | t :: ts =>
    match w.produce t with
    | .error e => .error e
    | .ok (r, log, w) =>
      match w.produceAll ts with
      | .error (h, more) => .error (h, log ++ more)
      | .ok (rs, more) => .ok (r :: rs, log ++ more)

end Scribe

end JavaScribe
