import JavaScribe.Session.Edit
import JavaScribe.Import.Set

/-!
# Building step by step

A type is built by calls that work in small steps.  A call checks names, categories and identities,
has modifiers judged, and records warnings, imports and members as it goes.  The imports and
warnings are those of the whole file.  No step is ever taken back: when a check fails, all that was
recorded before it stays, in the type, in what the file shares and in the log.  So the order of the
steps matters, and every call has its checks before its first record.

Steps on what a file shares are told apart from steps on the type that a call is made on, for a new
type is made of the former alone before it becomes a member.
-/

set_option autoImplicit false

namespace JavaScribe

/-- What the types of a file share while they are built. -/
structure FileState where
  imports : ImportSet
  warnings : List String
  /-- The records of the call so far. -/
  log : Log

/-- The type that a call is made on, and what its file shares. -/
structure TypeState where
  type : TypeDecl
  file : FileState

/-- Steps on what a file shares.  The state outlives a failure. -/
abbrev FileBuilder := EStateM EditError FileState

/-- Steps on a type and on what its file shares.  The state outlives a failure. -/
abbrev TypeBuilder := EStateM EditError TypeState

/-- A check, which reads and records nothing. -/
def check {σ ε α : Type} (wrap : ε → EditError) : Except ε α → EStateM EditError σ α
  | .ok a => pure a
  | .error e => throw (wrap e)

namespace FileBuilder

/-- Adds an entry to the imports of the file. -/
def addImport (e : ImportEntry) : FileBuilder Unit :=
  modify fun f => { f with imports := f.imports.add e }

/-- Adds an import for each mention of a type. -/
def addMentions (ns : List TypeName) : FileBuilder Unit :=
  ns.forM fun n => addImport (.ofTypeName n)

/-- Logs a record. -/
def record (r : LogRecord) : FileBuilder Unit := modify fun f => { f with log := f.log ++ [r] }

/-- Has the modifiers of a declaration judged, which reports those that are redundant. -/
def judge (s : Subject) (requested : ModifierSet) : FileBuilder (List Modifier) := fun f =>
  let r := s.report requested f.warnings
  let f := { f with warnings := r.warnings, log := f.log ++ r.log }
  match r.outcome with
  | .ok modifiers => .ok modifiers f
  | .error e => .error (.modifiers e) f

/-- Makes a type, as yet without members and not a member itself.  The superclass comes last. -/
def declareType (s : TypeSpec) (site : Site) (p : Place) : FileBuilder TypeDecl := do
  if s.kind = .interfaceType ∧ s.superclass.isSome then throw .superclassOfInterface
  check .name (requireIdentifier (s.kind.word ++ " name") s.name)
  check .name (requirePackageName p.package)
  let category ← check .category (Category.parse s.category)
  let modifiers ← judge (s.subject site) s.modifiers
  s.annotations.forM fun a => addMentions a.mentions
  s.interfaces.forM fun i => addMentions i.mentions
  record (s.declaredRecord p)
  s.superclass.join.forM fun t => addMentions t.mentions
  return ⟨s.header category modifiers, [], []⟩

end FileBuilder

namespace TypeBuilder

/-- Carries out steps on what the file shares. -/
def onFile {α : Type} (b : FileBuilder α) : TypeBuilder α := fun s =>
  match b.run s.file with
  | .ok a f => .ok a { s with file := f }
  | .error e f => .error e { s with file := f }

/-- Changes the header of the type. -/
def changeHeader (f : TypeHeader → TypeHeader) : TypeBuilder Unit :=
  modify fun s => { s with type := { s.type with header := f s.type.header } }

/-- Refuses a member whose identity is taken. -/
def requireNew (p : Place) (i : Identity) (name : String) : TypeBuilder Unit := do
  check id ((← get).type.requireNew p i name)

/-- Has the modifiers of a member judged. -/
def judge (kind : DeclarationKind) (name : String) (hasBody : Bool) (requested : ModifierSet) :
    TypeBuilder (List Modifier) := do
  onFile (FileBuilder.judge ((← get).type.subject kind name hasBody) requested)

/-- Adds a member, for which its identity is looked at once more. -/
def addMember (p : Place) (m : Member) : TypeBuilder Unit := do
  requireNew p m.identity m.name
  onFile (FileBuilder.addMentions m.mentions)
  modify fun s => { s with type := s.type.withMember m }

/-- Declares a field. -/
def declareField (p : Place) (s : FieldSpec) : TypeBuilder Unit := do
  check .name (requireIdentifier "field name" s.name)
  let category ← check .category (Category.parse s.options.category)
  requireNew p (.field s.name) s.name
  let modifiers ← judge .field s.name false s.options.modifiers
  addMember p (.field ⟨s.type, s.name, s.documentation, modifiers, s.value, category, s.options⟩)

/-- Declares a method. -/
def declareMethod (p : Place) (s : MethodSpec) : TypeBuilder Unit := do
  check .name (requireIdentifier "method name" s.name)
  let category ← check .category (Category.parse s.options.category)
  requireNew p (.method s.name (signature s.parameters)) s.name
  let modifiers ← judge .method s.name s.body.isSome s.options.modifiers
  addMember p (.executable ⟨.method s.returnType s.returnDoc, s.name, s.documentation,
    s.parameters, modifiers, s.body, category, s.options⟩)

/-- Declares a constructor, which has the name of the type. -/
def declareConstructor (p : Place) (s : ConstructorSpec) : TypeBuilder Unit := do
  let category ← check .category (Category.parse s.options.category)
  let name := (← get).type.header.name
  requireNew p (.constructor (signature s.parameters)) name
  let modifiers ← judge .constructor name false s.options.modifiers
  addMember p (.executable ⟨.constructor, name, s.documentation, s.parameters, modifiers, s.body,
    category, s.options⟩)

/-- Declares a nested type, whose identity is looked at before anything else. -/
def declareNested (p : Place) (s : TypeSpec) : TypeBuilder Unit := do
  requireNew p (.type s.name) s.name
  let site := (← get).type.header.kind.site
  let nested ← onFile (FileBuilder.declareType s site (p.inner s.name))
  addMember p nested.toMember

/-- Declares a type parameter, with the imports that its bounds need. -/
def declareTypeParameter (name documentation : String) (bounds : List TypeExpr) :
    TypeBuilder Unit := do
  let parameter ← check .name (TypeParameter.declare name documentation bounds)
  parameter.bounds.forM fun t => onFile (FileBuilder.addMentions t.mentions)
  changeHeader fun h => { h with typeParameters := h.typeParameters ++ [parameter] }

/-- Adds an interface, unless it is there already. -/
def addInterface (i : TypeExpr) : TypeBuilder Unit := do
  onFile (FileBuilder.addMentions i.mentions)
  changeHeader fun h => { h with interfaces := TypeDecl.joinInterfaces h.interfaces [i] }

/-- Adds an annotation. -/
def annotate (a : Annotation) : TypeBuilder Unit := do
  onFile (FileBuilder.addMentions a.mentions)
  changeHeader fun h => { h with annotations := h.annotations ++ [a] }

/-- Carries out an edit of a type at a place. -/
def edit (p : Place) : Edit → TypeBuilder Unit
  | .field spec => declareField p spec
  | .method spec => declareMethod p spec
  | .constructor spec => declareConstructor p spec
  | .nestedType spec => declareNested p spec
  | .addInterfaces interfaces => interfaces.forM addInterface
  | .addAnnotations annotations => annotations.forM annotate
  | .typeParameter name documentation bounds => declareTypeParameter name documentation bounds
  | .importEntry entry => onFile (FileBuilder.addImport entry)
  | .importType type => onFile (FileBuilder.addMentions type.mentions)
  | .importMember type member => onFile (FileBuilder.addImport (.ofMember type member))
  | .importPackage package => do
    check .name (requirePackageName package)
    onFile (FileBuilder.addImport (.wholePackage package))

end TypeBuilder

end JavaScribe
