import JavaScribe.Config.Settings
import JavaScribe.Import.Listing
import JavaScribe.Session.Basic
import JavaScribe.Layout.Declaration
import JavaScribe.Template.Library

/-!
# Source files

The text of a source file is its body, the lines of the top-level type, put together with header,
package and imports by a template.  Only a whole compilation unit makes a source file; a nested
type is written with the type around it.

The last step removes the white space at the ends of all lines and gives them the line ending that
is asked for.
-/

set_option autoImplicit false

namespace JavaScribe

/-- A type that a source file is asked for. -/
structure Target where
  unit : CompilationUnit
  path : List String
  type : TypeDecl

namespace Target

/-- The target at an address. -/
def find? (s : Session) (a : Address) : Option Target :=
  (s.find? a).map fun r => ⟨r.1, a.path, r.2⟩

/-- The name of the type that is asked for. -/
def name (t : Target) : String := t.type.header.name

/-- The name of the type with its package and the types around it in front. -/
def qualifiedName (t : Target) : String := (t.unit.place t.path).qualifiedName

/-- The path of the file of a type: its package as directories, and its name. -/
def outputPath (t : Target) : String :=
  let directories := if t.unit.package.isEmpty then [] else dottedParts t.unit.package
  "/".intercalate (directories ++ [t.name ++ ".java"])

end Target

namespace Settings

/-- The lines of the import section of a unit. -/
def importLines (s : Settings) (u : CompilationUnit) : List String :=
  ImportEntry.lines s.groupPrefixes (u.imports.resolve s.wildcardThreshold s.implicitPackages)

/-- What the template of a source file is told of a unit. -/
def context (s : Settings) (u : CompilationUnit) : Context :=
  [("header", .data s.copyrightHeader), ("package_name", .text u.package),
    ("imports", .texts (s.importLines u)),
    ("body", .text (Text.unlines (u.root.lines s.style "")))]

/-- The source text of a unit as the template arranges it. -/
def arrange (s : Settings) (l : TemplateLibrary) (u : CompilationUnit) :
    Except TemplateError String :=
  l.render TemplateLibrary.compilationUnitName (s.context u)

/-- The text in the form in which it is handed out. -/
def format (s : Settings) (code : String) : String := Text.tidyLines s.lineEnding code

end Settings

end JavaScribe
