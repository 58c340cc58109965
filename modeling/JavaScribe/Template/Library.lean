import JavaScribe.Template.Parser
import JavaScribe.Template.Render
import JavaScribe.File.Storage
import JavaScribe.Log

/-!
# Template libraries

A library holds the sources of templates by name.  Templates that were read from a directory come
before those in memory.  The template of a compilation unit is built in; it arranges a header, the
package, the imports and the body of a file.

The name of a template in a directory is a path, which may be written in more than one way but may
not leave the directory.  The name of one in memory is just a text.
-/

set_option autoImplicit false

namespace JavaScribe

/-- The sources of templates by name. -/
structure TemplateLibrary where
  /-- The templates of the directory, by their paths from it. -/
  files : List (String × String)
  memory : List (String × String)
deriving DecidableEq, Repr

namespace TemplateLibrary

/-- The name of the template for source files. -/
def compilationUnitName : String := "compilation_unit.java"

/-- The template that arranges a source file. -/
def compilationUnitSource : String :=
  "\x7b% if header %\x7d\n" ++
  "\x7b\x7b header | block_comment \x7d\x7d\n" ++
  "\n" ++
  "\x7b% endif %\x7d\n" ++
  "\x7b% if package_name %\x7d\n" ++
  "package \x7b\x7b package_name \x7d\x7d;\n" ++
  "\n" ++
  "\x7b% endif %\x7d\n" ++
  "\x7b% for line in imports %\x7d\n" ++
  "\x7b\x7b line \x7d\x7d\n" ++
  "\x7b% endfor %\x7d\n" ++
  "\x7b% if imports %\x7d\n" ++
  "\n" ++
  "\x7b% endif %\x7d\n" ++
  "\x7b\x7b body \x7d\x7d\n"

/-- The library of the built-in template alone. -/
def builtin : TemplateLibrary := ⟨[], [(compilationUnitName, compilationUnitSource)]⟩

/-- The library without templates. -/
def empty : TemplateLibrary := ⟨[], []⟩

/-- Puts a template into memory, in place of one of the same name. -/
def add (l : TemplateLibrary) (name source : String) : TemplateLibrary :=
  { l with memory := (name, source) :: l.memory.filter fun t => t.1 != name }

/-- The library with the templates of a directory in front. -/
def withFiles (l : TemplateLibrary) (files : List (String × String)) : TemplateLibrary :=
  { l with files }

/-- The record that a directory of templates is not there. -/
def missingDirectory (path : String) : LogRecord :=
  ⟨.warning, "Template directory " ++ path ++ " does not exist, using built-ins"⟩

/-- The library with the templates of the directory at a path in front, and what is logged if there
is no such directory.  A path that cannot be looked up is a fault. -/
def openDirectory (l : TemplateLibrary) (storage : Storage) (path : FilePath) :
    Except PathFault (TemplateLibrary × Log) :=
  match storage.find path with
  | .ok .directory => .ok (l.withFiles (storage.textsBelow path), [])
  | .error .tooLong => .error .tooLong
  | _ => .ok (l, [missingDirectory path.text])

/-- The path in the directory that the name of a template denotes, if it stays in the directory. -/
def pathOf? (name : String) : Option String :=
  let parts := (FilePath.ofText name).parts
  if parts.contains ".." then none else some ("/".intercalate parts)

/-- The source of a template: that of a file, or else that of one kept in memory. -/
def find? (l : TemplateLibrary) (name : String) : Option String :=
  ((pathOf? name).bind fun path => l.files.lookup path).or (l.memory.lookup name)

/-- Whether a template is listed under the name, as it is written. -/
def has (l : TemplateLibrary) (name : String) : Bool :=
  (l.files.lookup name).isSome || (l.memory.lookup name).isSome

/-- The text of a template in a context, or the fault. -/
def renderOrFault (l : TemplateLibrary) (name : String) (c : Context) :
    Except TemplateFault String :=
  match l.find? name with
  | none => .error .missingTemplate
  | some source => do
    let nodes ← Template.parse source
    if (c.lookup Context.selfName).isSome then throw .reservedName
    Node.renderTemplate name c nodes

/-- Renders the template of a name. -/
def render (l : TemplateLibrary) (name : String) (c : Context) : Except TemplateError String :=
  (l.renderOrFault name c).mapError fun fault => ⟨name, fault⟩

end TemplateLibrary

end JavaScribe
