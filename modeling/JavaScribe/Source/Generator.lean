import JavaScribe.Source.Basic

/-!
# Generators

A generator makes source files with one choice of settings and templates.  Templates that are to
come from a directory are looked up when the first file is made.  A type that cannot be written
spoils only its own result: the result says what went wrong and holds no code.  A fault of the
settings or templates themselves spoils everything.
-/

set_option autoImplicit false

namespace JavaScribe

/-- Where the templates of a generator come from. -/
inductive TemplateOrigin where
  | library (l : TemplateLibrary)
  /-- A directory among the files that there are. -/
  | directory (storage : Storage) (path : FilePath)
  /-- What should name the directory is no text. -/
  | unnamed
  /-- The custom settings, which would name the directory, are no object. -/
  | unknown

/-- Why a source file could not be made. -/
inductive GenerateError where
  /-- The type of this qualified name is nested in another one. -/
  | nested (qualifiedName : String)
  | template (cause : TemplateError)
  | noTemplates
  /-- What should name the directory of templates is no text. -/
  | unnamedDirectory
  | pathTooLong
deriving DecidableEq, Repr

/-- Whether the error spoils no more than the result of the type. -/
def GenerateError.isContained : GenerateError → Bool
  | .nested _ => true
  | .template cause => !cause.fault.isMisuse
  | .noTemplates | .unnamedDirectory | .pathTooLong => false

/-- The message of an error. -/
def GenerateError.message : GenerateError → String
  | .nested qualifiedName =>
    qualifiedName ++ " is a nested type; render its outermost type instead"
  | .template cause => cause.message
  | .noTemplates => "The custom settings are not an object"
  | .unnamedDirectory => "The directory of templates is not a text"
  | .pathTooLong => "The path of the directory of templates is too long"

namespace TemplateOrigin

/-- The key of the custom setting that names the directory of templates. -/
def directoryKey : String := "template_dir"

/-- Where a configuration says that the templates are. -/
def ofConfig (storage : Storage) (c : Config) : TemplateOrigin :=
  match c.custom.mapping? with
  | some custom =>
    match custom.get? directoryKey with
    | some (.string path) =>
      if path.isEmpty then .library .builtin else .directory storage (FilePath.ofText path)
    | some value => if value.isFalsy then .library .builtin else .unnamed
    | none => .library .builtin
  | none => .unknown

/-- The templates, and what is logged when they are looked up. -/
def openLibrary : TemplateOrigin → Except GenerateError (TemplateLibrary × Log)
  | .library l => .ok (l, [])
  | .directory storage path =>
    (TemplateLibrary.builtin.openDirectory storage path).mapError fun _ => .pathTooLong
  | .unnamed => .error .unnamedDirectory
  | .unknown => .error .noTemplates

end TemplateOrigin

/-- A choice of settings and templates. -/
structure Generator where
  settings : Settings
  templates : TemplateOrigin

/-- What making a source file gives: the text or the error, the records, and the generator, which
has its templates at hand afterwards. -/
structure Generated where
  outcome : Except GenerateError String
  log : Log
  generator : Generator

namespace Generator

/-- The record that the text of a target is being made. -/
def renderingRecord (t : Target) : LogRecord := ⟨.debug, "Rendering " ++ t.qualifiedName⟩

/-- Makes the source text of a target, not yet formatted. -/
def generate (g : Generator) (t : Target) : Generated :=
  if t.path.isEmpty then
    match g.templates.openLibrary with
    | .error e => ⟨.error e, [renderingRecord t], g⟩
    | .ok (l, opened) =>
      ⟨(g.settings.arrange l t.unit).mapError .template, renderingRecord t :: opened,
        { g with templates := .library l }⟩
  else ⟨.error (.nested t.qualifiedName), [], g⟩

/-- Makes the formatted source text of a target. -/
def render (g : Generator) (t : Target) : Generated :=
  let r := g.generate t
  { r with outcome := r.outcome.map g.settings.format }

end Generator

/-- What making a source file gives if it fails on its own. -/
structure GenerationResult where
  name : String
  outputPath : String
  code : String
  warnings : List String
  failure : Option GenerateError
deriving DecidableEq, Repr

namespace GenerationResult

/-- The language of all results. -/
def language : String := "java"

/-- The ending of the names of all files. -/
def fileExtension : String := ".java"

/-- The result of a target that failed; it holds neither code nor warnings. -/
def failed (t : Target) (e : GenerateError) : GenerationResult :=
  ⟨t.name, t.outputPath, "", [], some e⟩

/-- The message of a failed result. -/
def errorMessage? (r : GenerationResult) : Option String :=
  r.failure.map fun e => "Code generation failed for " ++ r.name ++ ": " ++ e.message

end GenerationResult

namespace Generator

/-- The records of a finished result. -/
def resultRecord (t : Target) : Except GenerateError String → LogRecord
  | .ok _ => ⟨.info, "Generated " ++ t.outputPath⟩
  | .error e => ⟨.error, "Generation of " ++ t.name ++ " failed: " ++ e.message⟩

/-- Makes the result for one target.  After an error that spoils everything there is none. -/
def produce (g : Generator) (t : Target) :
    Except (GenerateError × Log) (GenerationResult × Log × Generator) :=
  let r := g.render t
  match r.outcome with
  | .ok code =>
    .ok (⟨t.name, t.outputPath, code, t.unit.warnings, none⟩,
      r.log ++ [resultRecord t r.outcome], r.generator)
  | .error e =>
    if e.isContained then
      .ok (GenerationResult.failed t e, r.log ++ [resultRecord t r.outcome], r.generator)
    else .error (e, r.log)

/-- Makes the results for several targets in turn. After an error that spoils everything there are
no results at all. -/
def produceAll (g : Generator) :
    List Target → Except (GenerateError × Log) (List GenerationResult × Log)
  | [] => .ok ([], [])
  | t :: ts =>
    match g.produce t with
    | .error e => .error e
    | .ok (r, log, g) =>
      match g.produceAll ts with
      | .error (e, more) => .error (e, log ++ more)
      | .ok (rs, more) => .ok (r :: rs, log ++ more)

end Generator

end JavaScribe
