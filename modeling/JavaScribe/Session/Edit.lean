import JavaScribe.Member.Basic
import JavaScribe.Import.Entry
import JavaScribe.Modifier.Report

/-!
# Edits

An edit declares something in a type: a member, a nested type, a type parameter, more interfaces or
annotations, or an import of its file.  An edit is judged completely before anything changes.  What
an accepted edit does is an `Effect`: the type after it, and what it adds to the imports and the
warnings that all types of a file share.

The checks come in a fixed order, so that of several faults always the same one is reported: the
name, the category, the identity of the member, and at last its modifiers.  A nested type is
checked for its identity first.
-/

set_option autoImplicit false

namespace JavaScribe

/-- Why an edit is refused. -/
inductive EditError where
  | name (cause : InvalidName)
  | category (cause : CategoryError)
  /-- A member of the type, whose qualified name is given, has this identity already. -/
  | duplicate (identity : Identity) (member owner : String)
  | modifiers (cause : ModifierError)
  /-- Interfaces extend any number of interfaces; of a superclass nothing may be said. -/
  | superclassOfInterface
  | unknownType
deriving DecidableEq, Repr

/-- The message of a refused edit. -/
def EditError.message : EditError → String
  | .name cause => cause.message
  | .category cause => cause.message
  | .duplicate identity member owner =>
    "Duplicate " ++ identity.word ++ " " ++ Text.quote member ++ " in " ++ owner
  | .modifiers cause => cause.message
  | .superclassOfInterface => "An interface has no superclass"
  | .unknownType => "There is no such type"

/-- What is said of a field when it is declared. -/
structure FieldSpec where
  type : TypeExpr
  name : String
  documentation : String := ""
  value : String := ""
  options : MemberOptions := {}

/-- What is said of a method when it is declared. -/
structure MethodSpec where
  returnType : TypeExpr
  name : String
  documentation : String := ""
  parameters : List Parameter := []
  body : Option String := none
  returnDoc : String := ""
  options : MemberOptions := {}

/-- What is said of a constructor when it is declared. -/
structure ConstructorSpec where
  documentation : String := ""
  parameters : List Parameter := []
  body : Option String := some ""
  options : MemberOptions := {}

/-- What is said of a type when it is declared. -/
structure TypeSpec where
  kind : TypeKind
  name : String
  modifiers : ModifierSet := .empty
  documentation : String := ""
  since : String := ""
  authors : List String := []
  see : List String := []
  /-- The tag of the category, as it was given. -/
  category : String := ""
  /-- What is said of the superclass, if anything is: a type, or that there is none. -/
  superclass : Option (Option TypeExpr) := none
  annotations : List Annotation := []
  interfaces : List TypeExpr := []

/-- A change of a type. -/
inductive Edit where
  | field (spec : FieldSpec)
  | method (spec : MethodSpec)
  | constructor (spec : ConstructorSpec)
  | nestedType (spec : TypeSpec)
  | addInterfaces (interfaces : List TypeExpr)
  | addAnnotations (annotations : List Annotation)
  | typeParameter (name documentation : String) (bounds : List TypeExpr)
  | importEntry (entry : ImportEntry)
  | importType (type : TypeExpr)
  | importMember (type : TypeName) (member : String)
  | importPackage (package : String)

/-- A type as it stands in its file. -/
structure Place where
  package : String
  /-- The names of the types around it, from the outermost, and its own name. -/
  path : List String
deriving DecidableEq, Repr

namespace Place

/-- The name of the type as it is seen in its package. -/
def nestedName (p : Place) : String := ".".intercalate p.path

/-- The name of the type with its package in front. -/
def qualifiedName (p : Place) : String :=
  if p.package.isEmpty then p.nestedName else p.package ++ "." ++ p.nestedName

/-- The place of a type nested in this one. -/
def inner (p : Place) (name : String) : Place := ⟨p.package, p.path ++ [name]⟩

/-- A reference to the type. -/
def reference (p : Place) (arguments : List TypeExpr) : TypeExpr :=
  .named p.nestedName p.package arguments false

end Place

/-- What an accepted edit does. -/
structure Effect where
  /-- The type after the edit. -/
  type : TypeDecl
  /-- What is added to the imports of the file. -/
  imports : List ImportEntry := []
  /-- What is added to the warnings of the file. -/
  warnings : List String := []
  log : Log := []

/-- The imports that the mention of types needs. -/
def importsOf (ns : List TypeName) : List ImportEntry := ns.map ImportEntry.ofTypeName

namespace TypeDecl

/-- Refuses a member whose identity is taken. -/
def requireNew (t : TypeDecl) (p : Place) (i : Identity) (name : String) : Except EditError Unit :=
  if t.identities.contains i then .error (.duplicate i name p.qualifiedName) else .ok ()

/-- A member of the type, as far as its modifiers depend on it. -/
def subject (t : TypeDecl) (kind : DeclarationKind) (name : String) (hasBody : Bool) : Subject :=
  ⟨kind, t.header.kind.site, name, hasBody, t.header.isAbstract⟩

/-- The type with one more member. -/
def withMember (t : TypeDecl) (m : Member) : TypeDecl :=
  { t with identities := t.identities ++ [m.identity], members := t.members ++ [m] }

/-- What the declaration of a member does, once it is accepted. -/
def declare (t : TypeDecl) (m : Member) (subject : Subject) (accepted : AcceptedModifiers) :
    Effect :=
  { type := t.withMember m, imports := importsOf m.mentions, warnings := subject.warnings accepted
    log := Log.ofWarnings (subject.warnings accepted) }

/-- Judges the declaration of a field. -/
def declareField (t : TypeDecl) (p : Place) (s : FieldSpec) : Except EditError Effect := do
  (requireIdentifier "field name" s.name).mapError .name
  let category ← (Category.parse s.options.category).mapError .category
  t.requireNew p (.field s.name) s.name
  let subject := t.subject .field s.name false
  let accepted ← (subject.judge s.options.modifiers).mapError .modifiers
  return t.declare
    (.field ⟨s.type, s.name, s.documentation, accepted.emitted, s.value, category, s.options⟩)
    subject accepted

/-- Judges the declaration of a method, which may have a body. -/
def declareMethod (t : TypeDecl) (p : Place) (s : MethodSpec) : Except EditError Effect := do
  (requireIdentifier "method name" s.name).mapError .name
  let category ← (Category.parse s.options.category).mapError .category
  t.requireNew p (.method s.name (signature s.parameters)) s.name
  let subject := t.subject .method s.name s.body.isSome
  let accepted ← (subject.judge s.options.modifiers).mapError .modifiers
  return t.declare
    (.executable ⟨.method s.returnType s.returnDoc, s.name, s.documentation, s.parameters,
      accepted.emitted, s.body, category, s.options⟩)
    subject accepted

/-- Declares a constructor, which has the name of the type. -/
def declareConstructor (t : TypeDecl) (p : Place) (s : ConstructorSpec) :
    Except EditError Effect := do
  let category ← (Category.parse s.options.category).mapError .category
  t.requireNew p (.constructor (signature s.parameters)) t.header.name
  -- modifiers of constructors are judged as if there were no body
  let subject := t.subject .constructor t.header.name false
  let accepted ← (subject.judge s.options.modifiers).mapError .modifiers
  return t.declare
    (.executable ⟨.constructor, t.header.name, s.documentation, s.parameters, accepted.emitted,
      s.body, category, s.options⟩)
    subject accepted

/-- The interfaces with further ones, of which those already there are left out. -/
def joinInterfaces (present added : List TypeExpr) : List TypeExpr :=
  added.foldl (fun acc i => if acc.contains i then acc else acc ++ [i]) present

end TypeDecl

namespace TypeSpec

/-- The types that the declaration of a type mentions. -/
def mentions (s : TypeSpec) : List TypeName :=
  s.annotations.flatMap Annotation.mentions ++ TypeExpr.mentionsAll s.interfaces ++
    (s.superclass.join.map TypeExpr.mentions).getD []

/-- The type as far as its modifiers depend on it. -/
def subject (s : TypeSpec) (site : Site) : Subject :=
  ⟨s.kind.declarationKind, site, s.name, false, false⟩

/-- The type that is declared, when its category and modifiers are known. -/
def header (s : TypeSpec) (category : Category) (modifiers : List Modifier) : TypeHeader :=
  { kind := s.kind, name := s.name, requested := s.modifiers, modifiers
    documentation := s.documentation, since := s.since, authors := s.authors, see := s.see
    category, superclass := s.superclass.join, annotations := s.annotations
    interfaces := TypeDecl.joinInterfaces [] s.interfaces, typeParameters := [] }

/-- The record that the type was declared. -/
def declaredRecord (s : TypeSpec) (p : Place) : LogRecord :=
  ⟨.debug, "Declared " ++ s.kind.word ++ " " ++ p.qualifiedName⟩

/-- Declares a type at a place, as yet without members.  Its warnings come before the record that
it was declared. -/
def declare (s : TypeSpec) (site : Site) (p : Place) : Except EditError Effect := do
  if s.kind = .interfaceType ∧ s.superclass.isSome then throw .superclassOfInterface
  (requireIdentifier (s.kind.word ++ " name") s.name).mapError .name
  (requirePackageName p.package).mapError .name
  let category ← (Category.parse s.category).mapError .category
  let accepted ← ((s.subject site).judge s.modifiers).mapError .modifiers
  let warnings := (s.subject site).warnings accepted
  return { type := ⟨s.header category accepted.emitted, [], []⟩, imports := importsOf s.mentions
           warnings, log := Log.ofWarnings warnings ++ [s.declaredRecord p] }

end TypeSpec

namespace TypeDecl

/-- Judges the declaration of a nested type, whose identity is looked at before anything else. -/
def declareNested (t : TypeDecl) (p : Place) (s : TypeSpec) : Except EditError Effect := do
  t.requireNew p (.type s.name) s.name
  let nested ← s.declare t.header.kind.site (p.inner s.name)
  return { nested with type := t.withMember nested.type.toMember }

/-- Judges the declaration of a type parameter, which is refused only for its name. -/
def declareTypeParameter (t : TypeDecl) (name documentation : String) (bounds : List TypeExpr) :
    Except EditError Effect := do
  let parameter ← (TypeParameter.declare name documentation bounds).mapError .name
  let header := { t.header with typeParameters := t.header.typeParameters ++ [parameter] }
  return { type := { t with header }, imports := importsOf parameter.mentions }

/-- What an edit of a type at a place does, or why it is refused. -/
def edit (t : TypeDecl) (p : Place) : Edit → Except EditError Effect
  | .field spec => t.declareField p spec
  | .method spec => t.declareMethod p spec
  | .constructor spec => t.declareConstructor p spec
  | .nestedType spec => t.declareNested p spec
  | .addInterfaces interfaces =>
    let header :=
      { t.header with interfaces := joinInterfaces t.header.interfaces interfaces }
    .ok { type := { t with header }, imports := importsOf (TypeExpr.mentionsAll interfaces) }
  | .addAnnotations annotations =>
    let header := { t.header with annotations := t.header.annotations ++ annotations }
    .ok { type := { t with header }
          imports := importsOf (annotations.flatMap Annotation.mentions) }
  | .typeParameter name documentation bounds => t.declareTypeParameter name documentation bounds
  | .importEntry entry => .ok { type := t, imports := [entry] }
  | .importType type => .ok { type := t, imports := importsOf type.mentions }
  | .importMember type member => .ok { type := t, imports := [ImportEntry.ofMember type member] }
  | .importPackage package => do
    (requirePackageName package).mapError .name
    return { type := t, imports := [ImportEntry.wholePackage package] }

end TypeDecl

end JavaScribe
