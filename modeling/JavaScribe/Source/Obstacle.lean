import JavaScribe.Config.Settings
import JavaScribe.Source.Basic
import JavaScribe.TypeExpr.Extent

/-!
# Obstacles

Some declarations can be made and yet not be written: a text in them would be too large for the
machine that writes it, or an annotation without a name is met where names are compared.  Others
cannot be written with settings whose values are of no use.  The obstacle that counts is the first
one in the order of writing, so every function here goes through the parts of a text in the order in
which they stand.
-/

set_option autoImplicit false

namespace JavaScribe

/-- What keeps something from being written. -/
inductive Obstacle where
  /-- A text does not keep within the limits. -/
  | oversize (cause : Text.Oversize)
  /-- The annotation that marks inherited documentation is looked for among nameless ones. -/
  | nameless
  /-- The value of a setting is of no use. -/
  | misfit (s : Setting)
deriving DecidableEq

namespace Obstacle

/-- The first of several obstacles. -/
def first (os : List (Option Obstacle)) : Option Obstacle := os.findSome? id

/-- What keeps types from being written. -/
def ofTypes (l : Text.Limits) (ts : List TypeExpr) : Option Obstacle :=
  (TypeExpr.oversizeAny? l ts).map oversize

/-- What keeps annotations from being written. -/
def ofAnnotations (l : Text.Limits) (as : List Annotation) : Option Obstacle :=
  (as.findSome? fun a => a.oversize? l).map oversize

/-- What keeps parameters from being written. -/
def ofParameters (l : Text.Limits) (ps : List Parameter) : Option Obstacle :=
  (ps.findSome? (Parameter.oversize? l)).map oversize

/-- What keeps type parameters from being written. -/
def ofTypeParameters (l : Text.Limits) (ps : List TypeParameter) : Option Obstacle :=
  (ps.findSome? (TypeParameter.oversize? l)).map oversize

end Obstacle

/-- Settings with those of them whose values are of no use, and the limits of the machine that
writes with them. -/
structure SettingsReading where
  settings : Settings
  misfits : List Setting
  limits : Text.Limits

/-- The settings of a configuration, read as far as they can be, for a machine with the given
limits. -/
def Config.reading (c : Config) (limits : Text.Limits) : SettingsReading :=
  ⟨c.settings, c.misfits, limits⟩

namespace SettingsReading

/-- What keeps a setting from being used. -/
def misfit? (r : SettingsReading) (s : Setting) : Option Obstacle :=
  if r.misfits.contains s then some (.misfit s) else none

/-- What keeps the unit of indentation from being written; tabs need no size. -/
def indentObstacle? (r : SettingsReading) : Option Obstacle :=
  if r.settings.useTabs then none
  else (r.misfit? .indentSize).or ((r.settings.indentOversize? r.limits).map .oversize)

/-- What keeps banners at an indentation from being written. -/
def bannerObstacle? (r : SettingsReading) (indent : String) : Option Obstacle :=
  (r.misfit? .bannerWidth).or ((r.settings.style.bannerOversize? r.limits indent).map .oversize)

/-- What keeps the lines of a file from being joined. -/
def endingObstacle? (r : SettingsReading) : Option Obstacle := r.misfit? .lineEnding

/-- What keeps the imports of a unit from being written.  The threshold is only looked at if there
is something to count, and a prefix only if no earlier one fits. -/
def importObstacle? (r : SettingsReading) (u : CompilationUnit) : Option Obstacle :=
  let s := r.settings
  let counts := u.imports.entries.any (ImportEntry.isOrdinary s.implicitPackages)
  let outside := (u.imports.resolve s.wildcardThreshold s.implicitPackages).any fun e =>
    !s.groupPrefixes.any fun p => p.toList.isPrefixOf e.package.toList
  Obstacle.first [r.misfit? .implicitPackages,
    if counts then r.misfit? .wildcardThreshold else none,
    if outside then r.misfit? .groupPrefixes else none]

end SettingsReading

/-- What keeps a field from being written. -/
def Field.obstacle? (l : Text.Limits) (f : Field) : Option Obstacle :=
  Obstacle.first [Obstacle.ofAnnotations l f.options.annotations, Obstacle.ofTypes l [f.type]]

namespace Executable

/-- What keeps the type of a result from being written; a constructor has none. -/
def resultObstacle? (l : Text.Limits) (e : Executable) : Option Obstacle :=
  match e.form with
  | .constructor => none
  | .method returnType _ => Obstacle.ofTypes l [returnType]

/-- What keeps a constructor or method from being written.  Its documentation comes first, and with
it the names of its annotations. -/
def obstacle? (l : Text.Limits) (e : Executable) : Option Obstacle :=
  Obstacle.first [if e.meetsNameless then some .nameless else none,
    Obstacle.ofAnnotations l e.options.annotations,
    Obstacle.ofTypeParameters l e.options.typeParameters, e.resultObstacle? l,
    Obstacle.ofParameters l e.parameters]

end Executable

/-- What keeps the line that a type is declared with from being written. -/
def TypeHeader.obstacle? (l : Text.Limits) (h : TypeHeader) : Option Obstacle :=
  Obstacle.first [Obstacle.ofTypeParameters l h.typeParameters,
    Obstacle.ofTypes l h.superclass.toList, Obstacle.ofTypes l h.interfaces]

/-- A member as far as it may be an obstacle. -/
structure Passage where
  key : MemberKey
  category : Category
  obstacle? : Option Obstacle

namespace Passage

/-- What keeps passages in order from being written, given the tag of the category before them and
what keeps banners from it. -/
def sectionObstacle? (banner : Option Obstacle) : (previous : String) → List Passage →
    Option Obstacle
  | _, [] => none
  | previous, p :: ps =>
    let untitled := p.category.tag = previous || p.category.title.isEmpty
    Obstacle.first [if untitled then none else banner, p.obstacle?,
      sectionObstacle? banner p.category.tag ps]

/-- What keeps a type from being written whose members are the given passages. -/
def typeObstacle? (r : SettingsReading) (indent : String) (h : TypeHeader) (ps : List Passage) :
    Option Obstacle :=
  Obstacle.first [Obstacle.ofAnnotations r.limits h.annotations, h.obstacle? r.limits,
    sectionObstacle? (r.bannerObstacle? (indent ++ r.settings.indent)) ""
      (ps.mergeSort fun a b => a.key.precedes b.key)]

end Passage

namespace Member

mutual
/-- A member at an indentation as far as it may be an obstacle. -/
def passage (r : SettingsReading) (indent : String) : Member → Passage
  | .field f => ⟨key (.field f), f.category, f.obstacle? r.limits⟩
  | .executable e => ⟨key (.executable e), e.category, e.obstacle? r.limits⟩
  | .type header identities members =>
    ⟨key (.type header identities members), header.category,
      Passage.typeObstacle? r indent header (passages r (indent ++ r.settings.indent) members)⟩

/-- The members of a list as far as they may be obstacles. -/
def passages (r : SettingsReading) (indent : String) : List Member → List Passage
  | [] => []
  | m :: ms => passage r indent m :: passages r indent ms
end

end Member

namespace Target

/-- What keeps the file of a target from being written, up to its template. -/
def obstacle? (r : SettingsReading) (t : Target) : Option Obstacle :=
  if t.path.isEmpty then
    Obstacle.first [r.importObstacle? t.unit,
      Passage.typeObstacle? r "" t.type.header
        (Member.passages r r.settings.indent t.type.members)]
  else none

/-- What keeps the members of a target from being written, in order, at an indentation. -/
def membersObstacle? (r : SettingsReading) (indent : String) (t : Target) : Option Obstacle :=
  Obstacle.first ((Member.inOrder t.type.members).map fun m => (m.passage r indent).obstacle?)

/-- What keeps the header of a target and all that is declared with it from being listed. -/
def listObstacle? (l : Text.Limits) (t : Target) : Option Obstacle :=
  Obstacle.first [Obstacle.ofTypes l t.type.header.interfaces,
    Obstacle.ofTypeParameters l t.type.header.typeParameters,
    Obstacle.ofAnnotations l t.type.header.annotations]

end Target

end JavaScribe
