import JavaScribe.Session.Builder

/-!
# Compilation units and sessions

A compilation unit is the tree of a top-level type with the imports and warnings that all types of
the tree share.  A session holds the units that are being built.  A type is addressed by the number
of its unit and the path of names from the top-level type to it.

An action either opens a unit or edits a type.  It can be judged, which tells what it comes to if it
is legal, and it can be performed, which takes its steps one after the other and keeps whatever they
leave behind, also when one of them fails.
-/

set_option autoImplicit false

namespace JavaScribe

/-- A top-level type with what its file shares. -/
structure CompilationUnit where
  root : TypeDecl
  imports : ImportSet
  warnings : List String

namespace CompilationUnit

/-- The package of a unit. -/
def package (u : CompilationUnit) : String := u.imports.package

/-- The place of the type that a path leads to. -/
def place (u : CompilationUnit) (path : List String) : Place :=
  ⟨u.package, u.root.header.name :: path⟩

/-- The type that a path leads to. -/
def find? (u : CompilationUnit) (path : List String) : Option TypeDecl := u.root.find? path

/-- Carries out the effect of an edit on the type that a path leads to. -/
def apply (u : CompilationUnit) (path : List String) (e : Effect) : CompilationUnit where
  root := u.root.update (fun _ => e.type) path
  imports := u.imports.addAll e.imports
  warnings := u.warnings ++ e.warnings

/-- Opens a unit with a top-level type. -/
def declare (package : String) (spec : TypeSpec) : Except EditError (CompilationUnit × Log) := do
  let e ← spec.declare .topLevel ⟨package, [spec.name]⟩
  return (⟨e.type, (ImportSet.empty package).addAll e.imports, e.warnings⟩, e.log)

/-- Judges an edit of the type that a path leads to, and carries it out if it is accepted. -/
def edit (u : CompilationUnit) (path : List String) (ed : Edit) :
    Except EditError (CompilationUnit × Log) :=
  match u.find? path with
  | none => .error .unknownType
  | some t => do
    let e ← t.edit (u.place path) ed
    return (u.apply path e, e.log)

/-- What the steps of a call on a type start from. -/
def begin (u : CompilationUnit) (t : TypeDecl) : TypeState := ⟨t, ⟨u.imports, u.warnings, []⟩⟩

/-- Puts what the steps of a call leave behind in the place of the type that a path leads to. -/
def settle (u : CompilationUnit) (path : List String) (s : TypeState) : CompilationUnit where
  root := u.root.update (fun _ => s.type) path
  imports := s.file.imports
  warnings := s.file.warnings

end CompilationUnit

/-- Where a type is in a session. -/
structure Address where
  unit : Nat
  path : List String
deriving DecidableEq, Repr

/-- The units that are being built. -/
structure Session where
  units : List CompilationUnit

/-- What is done to a session. -/
inductive Action where
  | openUnit (package : String) (spec : TypeSpec)
  | edit (address : Address) (edit : Edit)

/-- What an action has come to. -/
structure Performed where
  outcome : Except EditError Unit
  session : Session
  log : Log

namespace Session

/-- The session in which nothing has been done. -/
def empty : Session := ⟨[]⟩

/-- The type at an address, with its unit. -/
def find? (s : Session) (a : Address) : Option (CompilationUnit × TypeDecl) :=
  match s.units[a.unit]? with
  | some u => (u.find? a.path).map fun t => (u, t)
  | none => none

/-- Judges an action: the session and the records after it, or why it is refused. -/
def act (s : Session) : Action → Except EditError (Session × Log)
  | .openUnit package spec => do
    let (u, log) ← CompilationUnit.declare package spec
    return (⟨s.units ++ [u]⟩, log)
  | .edit a ed =>
    match s.units[a.unit]? with
    | none => .error .unknownType
    | some u => do
      let (u, log) ← u.edit a.path ed
      return (⟨s.units.set a.unit u⟩, log)

/-- Opens a unit step by step.  Of a unit that is refused nothing but the records is left. -/
def performOpen (s : Session) (package : String) (spec : TypeSpec) : Performed :=
  match (FileBuilder.declareType spec .topLevel ⟨package, [spec.name]⟩).run
      ⟨ImportSet.empty package, [], []⟩ with
  | .ok t f => ⟨.ok (), ⟨s.units ++ [⟨t, f.imports, f.warnings⟩]⟩, f.log⟩
  | .error e f => ⟨.error e, s, f.log⟩

/-- Edits the type at an address step by step. -/
def performEdit (s : Session) (a : Address) (ed : Edit) : Performed :=
  match s.find? a with
  | none => ⟨.error .unknownType, s, []⟩
  | some (u, t) =>
    match (TypeBuilder.edit (u.place a.path) ed).run (u.begin t) with
    | .ok () w => ⟨.ok (), ⟨s.units.set a.unit (u.settle a.path w)⟩, w.file.log⟩
    | .error e w => ⟨.error e, ⟨s.units.set a.unit (u.settle a.path w)⟩, w.file.log⟩

/-- Carries out an action step by step. -/
def perform (s : Session) : Action → Performed
  | .openUnit package spec => s.performOpen package spec
  | .edit a ed => s.performEdit a ed

/-- The session after several actions, whether or not they succeed. -/
def performAll (s : Session) (actions : List Action) : Session :=
  actions.foldl (fun s a => (s.perform a).session) s

end Session

end JavaScribe
