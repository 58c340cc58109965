import JavaScribe.Member.Options
import JavaScribe.Modifier.Legality

/-!
# Members and types

A type has members: fields, constructors and methods, and nested types with members of their own.
A declared type is thus a tree.  Every type also keeps the identities of its members, by which a
second declaration of the same member is recognised: a field and a nested type are known by their
name, a method by its name and the printed types of its parameters, a constructor by the latter
alone.
-/

set_option autoImplicit false

namespace JavaScribe

/-- A field of a type. -/
structure Field where
  type : TypeExpr
  name : String
  documentation : String
  modifiers : List Modifier
  /-- The text of the initial value, empty if there is none. -/
  value : String
  category : Category
  options : MemberOptions
deriving DecidableEq

/-- The types that a field mentions, its own type first. -/
def Field.mentions (f : Field) : List TypeName :=
  f.type.mentions ++ f.options.annotations.flatMap Annotation.mentions

/-- What sets constructors and methods apart. -/
inductive ExecutableForm where
  | constructor
  | method (returnType : TypeExpr) (returnDoc : String)
deriving DecidableEq

/-- A constructor or method of a type. -/
structure Executable where
  form : ExecutableForm
  /-- The name of a method, or of the class that a constructor belongs to. -/
  name : String
  documentation : String
  parameters : List Parameter
  modifiers : List Modifier
  /-- The text of the body; nothing if it is declared without implementation. -/
  body : Option String
  category : Category
  options : MemberOptions
deriving DecidableEq

namespace ExecutableForm

/-- The types that the form of a constructor or method mentions. -/
def mentions : ExecutableForm → List TypeName
  | .constructor => []
  | .method returnType _ => returnType.mentions

/-- The documentation of the result, which a constructor does not have. -/
def returnDoc : ExecutableForm → String
  | .constructor => ""
  | .method _ returnDoc => returnDoc

/-- The kind of declaration that has this form. -/
def kind : ExecutableForm → DeclarationKind
  | .constructor => .constructor
  | .method .. => .method

end ExecutableForm

/-- The printed types of parameters, by which overloads are told apart. -/
def signature (ps : List Parameter) : List String := ps.map fun p => p.type.text

/-- The types that the declaration of a constructor or method mentions. -/
def Executable.mentions (e : Executable) : List TypeName :=
  e.form.mentions ++ e.parameters.flatMap Parameter.mentions ++ e.options.mentions

/-- What a type is. -/
inductive TypeKind where
  | classType
  | interfaceType
deriving DecidableEq, Repr

namespace TypeKind

/-- The kind of declaration that declares such a type. -/
def declarationKind : TypeKind → DeclarationKind
  | .classType => .classType
  | .interfaceType => .interfaceType

/-- The site of what is declared inside such a type. -/
def site : TypeKind → Site
  | .classType => .inClass
  | .interfaceType => .inInterface

/-- The word for such a type in a message. -/
def word (k : TypeKind) : String := k.declarationKind.word

end TypeKind

/-- A declared type without its members. -/
structure TypeHeader where
  kind : TypeKind
  name : String
  /-- The modifiers that were asked for. -/
  requested : ModifierSet
  /-- The modifiers that are written. -/
  modifiers : List Modifier
  documentation : String
  since : String
  authors : List String
  see : List String
  category : Category
  superclass : Option TypeExpr
  annotations : List Annotation
  interfaces : List TypeExpr
  typeParameters : List TypeParameter
deriving DecidableEq

/-- Whether the type was declared abstract. -/
def TypeHeader.isAbstract (h : TypeHeader) : Bool := h.requested.has .abstract

/-- By what a member is recognised. -/
inductive Identity where
  | field (name : String)
  | constructor (parameterTypes : List String)
  | method (name : String) (parameterTypes : List String)
  | type (name : String)
deriving DecidableEq, Repr

/-- The word for what has an identity in a message. -/
def Identity.word : Identity → String
  | .field _ => "field"
  | .constructor _ => "constructor"
  | .method .. => "method"
  | .type _ => "type"

/-- A member of a type; one that is a type has members of its own. -/
inductive Member where
  | field (f : Field)
  | executable (e : Executable)
  | type (header : TypeHeader) (identities : List Identity) (members : List Member)

/-- A declared type. -/
structure TypeDecl where
  header : TypeHeader
  /-- The identities of the members declared so far. -/
  identities : List Identity
  /-- The members, in the order in which they were declared. -/
  members : List Member

/-- The type as a member of another one. -/
def TypeDecl.toMember (t : TypeDecl) : Member := .type t.header t.identities t.members

namespace Executable

/-- By what a constructor or method is recognised. -/
def identity (e : Executable) : Identity :=
  match e.form with
  | .constructor => .constructor (signature e.parameters)
  | .method .. => .method e.name (signature e.parameters)

end Executable

namespace Member

/-- What tells a member apart from the other members of its type. -/
def identity : Member → Identity
  | .field f => .field f.name
  | .executable e => e.identity
  | .type header _ _ => .type header.name

/-- The name of a member; a constructor has that of its class. -/
def name : Member → String
  | .field f => f.name
  | .executable e => e.name
  | .type header _ _ => header.name

/-- The category of a member. -/
def category : Member → Category
  | .field f => f.category
  | .executable e => e.category
  | .type header _ _ => header.category

/-- The modifiers that a member is written with. -/
def modifiers : Member → List Modifier
  | .field f => f.modifiers
  | .executable e => e.modifiers
  | .type header _ _ => header.modifiers

/-- The types that the declaration of the member mentions; a nested type speaks for itself. -/
def mentions : Member → List TypeName
  | .field f => f.mentions
  | .executable e => e.mentions
  | .type .. => []

/-- The nested type that the member is, if it is one of the given name. -/
def nested? (name : String) : Member → Option TypeDecl
  | .type header identities members =>
    if header.name = name then some ⟨header, identities, members⟩ else none
  | _ => none

/-- Changes the member if it is the nested type of the given name. -/
def updateNested (name : String) (f : TypeDecl → TypeDecl) : Member → Member
  | .type header identities members =>
    if header.name = name then (f ⟨header, identities, members⟩).toMember
    else .type header identities members
  | m => m

/-- If names are kept, looking up a nested type after a change gives the changed type. -/
theorem nested?_updateNested (name : String) (f : TypeDecl → TypeDecl)
    (hf : ∀ u, (f u).header.name = u.header.name) (m : Member) :
    (m.updateNested name f).nested? name = (m.nested? name).map f := by
  cases m with
  | field | executable => rfl
  | type header identities members =>
    by_cases h : header.name = name
    · simp [updateNested, nested?, TypeDecl.toMember, h, hf]
    · simp [updateNested, nested?, h]

end Member

namespace TypeDecl

/-- The nested type of the given name. -/
def nested? (t : TypeDecl) (name : String) : Option TypeDecl :=
  t.members.findSome? (Member.nested? name)

/-- The type that a path of names leads to. -/
def find? (t : TypeDecl) : List String → Option TypeDecl
  | [] => some t
  | name :: path =>
    match t.nested? name with
    | some u => u.find? path
    | none => none

/-- Changes the type that a path of names leads to. -/
def update (f : TypeDecl → TypeDecl) : List String → TypeDecl → TypeDecl
  | [], t => f t
  | name :: path, t =>
    { t with members := t.members.map (Member.updateNested name (update f path)) }

/-- If a change keeps names, a type keeps its name when a type inside it is changed. -/
theorem update_name (f : TypeDecl → TypeDecl) (hf : ∀ u, (f u).header.name = u.header.name)
    (path : List String) (t : TypeDecl) : (t.update f path).header.name = t.header.name := by
  cases path with
  | nil => exact hf t
  | cons => rfl

/-- A change that keeps names reaches the type that the path leads to. -/
theorem find?_update (f : TypeDecl → TypeDecl) (hf : ∀ u, (f u).header.name = u.header.name)
    (path : List String) (t : TypeDecl) :
    (t.update f path).find? path = (t.find? path).map f := by
  induction path generalizing t with
  | nil => rfl
  | cons name path ih =>
    have hnested : (t.update f (name :: path)).nested? name =
        (t.nested? name).map (update f path) := by
      simp only [update, nested?]
      induction t.members with
      | nil => rfl
      | cons m ms ihm =>
        have hm := Member.nested?_updateNested name (update f path) (update_name f hf path) m
        simp only [List.map_cons, List.findSome?_cons, hm]
        cases m.nested? name with
        | none => exact ihm
        | some u => rfl
    simp only [find?, hnested]
    cases t.nested? name with
    | none => rfl
    | some u => exact ih u

end TypeDecl

end JavaScribe
