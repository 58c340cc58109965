import JavaScribe.Modifier.Basic

/-!
# Legal modifiers

Which modifiers a declaration may carry depends on what is declared and on where it stands.  The
rules give each requested modifier one of three verdicts: it is written, it is redundant because
the language implies it, or it is illegal.  A declaration is accepted when no modifier is illegal;
the written and the redundant modifiers are then reported apart, both in canonical order.
-/

set_option autoImplicit false

namespace JavaScribe

/-- What is declared. -/
inductive DeclarationKind where
  | field
  | constructor
  | method
  | classType
  | interfaceType
deriving DecidableEq, Repr

/-- The word for a kind of declaration in a message. -/
def DeclarationKind.word : DeclarationKind → String
  | .field => "field"
  | .constructor => "constructor"
  | .method => "method"
  | .classType => "class"
  | .interfaceType => "interface"

/-- Where it is declared. -/
inductive Site where
  | topLevel
  | inClass
  | inInterface
deriving DecidableEq, Repr

/-- The word for a site in a message. -/
def Site.word : Site → String
  | .topLevel => "top-level"
  | .inClass => "class"
  | .inInterface => "interface"

/-- What the rules say of a requested modifier. -/
inductive Verdict where
  | emit
  | redundant
  | illegal
deriving DecidableEq, Repr

/-- A declaration as far as its modifiers depend on it. -/
structure Subject where
  kind : DeclarationKind
  site : Site
  /-- The declared name, empty if messages are to leave it out. -/
  name : String
  /-- Whether a method is declared with a body. -/
  hasBody : Bool
  /-- Whether the class around the declaration is abstract. -/
  enclosingAbstract : Bool
deriving DecidableEq, Repr

/-- The declaration as messages name it. -/
def Subject.text (s : Subject) : String :=
  let what := if s.name.isEmpty then s.kind.word else s.kind.word ++ " \"" ++ s.name ++ "\""
  match s.site with
  | .topLevel => "top-level " ++ what
  | site => what ++ " in " ++ site.word

/-- A rule gives each modifier of a request its verdict. -/
abbrev ModifierRule := ModifierSet → Modifier → Verdict

namespace ModifierRule

/-- The verdict on a modifier that does not go with another one. -/
def without (requested : ModifierSet) (conflict : Modifier) (verdict : Verdict) : Verdict :=
  if requested.has conflict then .illegal else verdict

/-- The verdict on a modifier that needs another one. -/
def onlyWith (requested : ModifierSet) (needed : Modifier) (verdict : Verdict) : Verdict :=
  if requested.has needed then verdict else .illegal

/-- The modifiers of a top-level class; an abstract one is not final. -/
def topLevelClass : ModifierRule := fun requested m =>
  match m with
  | .publicAccess | .abstract => .emit
  | .final => without requested .abstract .emit
  | _ => .illegal

/-- The modifiers of a class inside a class; an abstract one is not final. -/
def classInClass : ModifierRule := fun requested m =>
  match m with
  | .publicAccess | .protectedAccess | .privateAccess | .abstract | .static => .emit
  | .final => without requested .abstract .emit
  | _ => .illegal

/-- A class in an interface, where it is public and static anyway. -/
def classInInterface : ModifierRule := fun requested m =>
  match m with
  | .abstract => .emit
  | .publicAccess | .static => .redundant
  | .final => without requested .abstract .emit
  | _ => .illegal

/-- An interface at top level, where it is abstract anyway. -/
def topLevelInterface : ModifierRule := fun _ m =>
  match m with
  | .publicAccess => .emit
  | .abstract | .interface => .redundant
  | _ => .illegal

/-- An interface in a class, where it is static anyway. -/
def interfaceInClass : ModifierRule := fun _ m =>
  match m with
  | .publicAccess | .protectedAccess | .privateAccess => .emit
  | .abstract | .static | .interface => .redundant
  | _ => .illegal

/-- An interface in an interface, where it is public and static anyway. -/
def interfaceInInterface : ModifierRule := fun _ m =>
  match m with
  | .publicAccess | .abstract | .static | .interface => .redundant
  | _ => .illegal

/-- The modifiers of a field of a class; a final one is not volatile. -/
def fieldInClass : ModifierRule := fun requested m =>
  match m with
  | .publicAccess | .protectedAccess | .privateAccess | .static | .final => .emit
  | .volatile => without requested .final .emit
  | _ => .illegal

/-- A field of an interface, which is a public constant anyway. -/
def fieldInInterface : ModifierRule := fun _ m =>
  match m with
  | .publicAccess | .static | .final => .redundant
  | _ => .illegal

/-- The modifiers of a constructor, which are those of access. -/
def constructorInClass : ModifierRule := fun _ m =>
  match m with
  | .publicAccess | .protectedAccess | .privateAccess => .emit
  | _ => .illegal

/-- A method of a class; an abstract one can be public or protected and nothing else. -/
def methodInClass : ModifierRule := fun requested m =>
  match m with
  | .publicAccess | .protectedAccess | .abstract => .emit
  | .privateAccess | .static | .final | .synchronized | .native | .strictfp =>
    without requested .abstract .emit
  | _ => .illegal

/-- A method of an interface, which is public anyway, and abstract unless it is static. -/
def methodInInterface : ModifierRule := fun requested m =>
  match m with
  | .static => .emit
  | .publicAccess => .redundant
  | .abstract => without requested .static .redundant
  | .privateAccess | .strictfp => onlyWith requested .static .emit
  | .final => onlyWith requested .static .redundant
  | _ => .illegal

/-- The rule for a kind of declaration at a place, if it can stand there at all. -/
def find? : DeclarationKind → Site → Option ModifierRule
  | .classType, .topLevel => some topLevelClass
  | .classType, .inClass => some classInClass
  | .classType, .inInterface => some classInInterface
  | .interfaceType, .topLevel => some topLevelInterface
  | .interfaceType, .inClass => some interfaceInClass
  | .interfaceType, .inInterface => some interfaceInInterface
  | .field, .inClass => some fieldInClass
  | .field, .inInterface => some fieldInInterface
  | .constructor, .inClass => some constructorInClass
  | .method, .inClass => some methodInClass
  | .method, .inInterface => some methodInInterface
  | _, _ => none

end ModifierRule

/-- Why a request for modifiers was refused. -/
inductive ModifierError where
  /-- Nothing of this kind can be declared at this place. -/
  | misplaced (kind : DeclarationKind) (site : Site)
  /-- More than one of public, protected and private. -/
  | conflictingAccess (subject : Subject)
  | abstractWithBody (subject : Subject)
  | abstractInConcreteClass (subject : Subject)
  | illegal (modifier : Modifier) (subject : Subject)
deriving DecidableEq, Repr

/-- The message of a fault in modifiers. -/
def ModifierError.message : ModifierError → String
  | .misplaced kind site => "A " ++ kind.word ++ " cannot be declared in " ++ site.word
  | .conflictingAccess subject => "Conflicting access modifiers on " ++ subject.text
  | .abstractWithBody subject =>
    "\"abstract\" modifier combined with method body on " ++ subject.text
  | .abstractInConcreteClass subject =>
    "Illegal modifier \"abstract\" on " ++ subject.text ++ ": enclosing class is not abstract"
  | .illegal modifier subject =>
    "Illegal modifier \"" ++ modifier.word ++ "\" on " ++ subject.text

/-- The modifiers of an accepted declaration. -/
structure AcceptedModifiers where
  emitted : List Modifier
  /-- The modifiers that were asked for and are implied anyway. -/
  redundant : List Modifier
deriving DecidableEq, Repr

namespace Subject

/-- Whether the keyword `default` is written: on a method of an interface that has a body and is
not static. -/
def isDefaultMethod (s : Subject) (requested : ModifierSet) : Bool :=
  s.kind == .method && s.site == .inInterface && s.hasBody && !requested.has .static

/-- The requested modifiers on which the rule has the given verdict, in canonical order. -/
def withVerdict (rule : ModifierRule) (requested : ModifierSet) (v : Verdict) : List Modifier :=
  Modifier.canonicalOrder.filter fun m => requested.has m && rule requested m == v

/-- The modifiers that are written, in canonical order. -/
def emitted (s : Subject) (rule : ModifierRule) (requested : ModifierSet) : List Modifier :=
  Modifier.canonicalOrder.filter fun m =>
    if m = .default then s.isDefaultMethod requested
    else requested.has m && rule requested m == .emit

/-- Refuses an abstract method that has a body or whose class is not abstract. -/
def requireAbstractable (s : Subject) (requested : ModifierSet) : Except ModifierError Unit :=
  if s.kind = .method ∧ requested.has .abstract = true then
    if s.hasBody then .error (.abstractWithBody s)
    else if s.site = .inClass ∧ s.enclosingAbstract = false then
      .error (.abstractInConcreteClass s)
    else .ok ()
  else .ok ()

/-- Judges the modifiers that are asked for. Of several faults always the same one is found: the
place of the declaration, two modifiers of access, an abstract method that cannot be one, and at
last the first modifier that is illegal here. -/
def judge (s : Subject) (requested : ModifierSet) : Except ModifierError AcceptedModifiers :=
  match ModifierRule.find? s.kind s.site with
  | none => .error (.misplaced s.kind s.site)
  | some rule =>
    if 1 < (Modifier.access.filter requested.has).length then .error (.conflictingAccess s)
    else
      match s.requireAbstractable requested with
      | .error e => .error e
      | .ok () =>
        match withVerdict rule requested .illegal with
        | m :: _ => .error (.illegal m s)
        | [] => .ok ⟨s.emitted rule requested, withVerdict rule requested .redundant⟩

end Subject

end JavaScribe
