import JavaScribe.Javadoc.Comment
import JavaScribe.Member.Order
import JavaScribe.Layout.Style

/-!
# The text of declarations

A type is written as its comment, its annotations and its header, followed by its members in
canonical order between braces.  Members of one category stand together.  A category with a title
opens with a banner.  Fields follow each other without space; every other member ends with an empty
line.

A nested type is written like any other, one level deeper.  Every member is first written on its
own, as a `Block`; the blocks are then put in order and the sections laid out.
-/

set_option autoImplicit false

namespace JavaScribe

/-- A member as it is written. -/
structure Block where
  key : MemberKey
  category : Category
  lines : List String
  /-- Whether the last of the lines is empty. -/
  endsBlank : Bool

/-- The words of a declaration, those that are empty left out. -/
def spaced (parts : List String) : String := " ".intercalate (parts.filter fun p => !p.isEmpty)

/-- Types with commas between them. -/
def commaList (ts : List TypeExpr) : String := ", ".intercalate (TypeExpr.texts ts)

/-- Annotations, each of them on a line of its own. -/
def annotationLines (indent : String) (as : List Annotation) : List String :=
  as.map fun a => indent ++ a.text

namespace Field

/-- A field as it is declared, with its initial value if it has one. -/
def declaration (f : Field) : String :=
  spaced [modifierText f.modifiers, f.type.text, f.name] ++
    (if f.value.isEmpty then "" else " = " ++ f.value)

/-- The lines of a field: its documentation, its annotations and its declaration. -/
def lines (indent : String) (f : Field) : List String :=
  Javadoc.commentLines indent f.documentation
      { see := f.options.see, since := f.options.since } ++
    annotationLines indent f.options.annotations ++ [indent ++ f.declaration ++ ";"]

end Field

namespace Executable

/-- The documentation that is written: a method that takes the place of another one inherits it. -/
def shownDocumentation (e : Executable) : String :=
  if e.documentation.isEmpty && e.options.annotations.any Annotation.isOverride then
    Javadoc.inherited
  else e.documentation

/-- Whether an annotation without a name is met where the one that marks inherited documentation is
looked for, which is only done if there is no documentation. -/
def meetsNameless (e : Executable) : Bool :=
  e.documentation.isEmpty &&
    ((e.options.annotations.dropWhile fun a => a.name?.isSome && !a.isOverride).head?.any
      fun a => a.name?.isNone)

/-- What the documentation of a constructor or method says beyond its text. -/
def tags (e : Executable) : Javadoc.Tags where
  typeParameters := e.options.typeParameters
  parameters := e.parameters
  returnDoc := e.form.returnDoc
  throws := e.options.throws
  see := e.options.see
  since := e.options.since

/-- The type of the result as it is written, empty for a constructor. -/
def resultText (e : Executable) : String :=
  match e.form with
  | .constructor => ""
  | .method returnType _ => returnType.text

/-- The declaration, without the body. -/
def declaration (e : Executable) : String :=
  spaced [modifierText e.modifiers, typeParameterList e.options.typeParameters, e.resultText,
      e.name] ++
    "(" ++ ", ".intercalate (e.parameters.map Parameter.text) ++ ")"

/-- The declaration with its body. -/
def implementation (style : Style) (indent : String) (e : Executable) : List String :=
  match e.body with
  | none => [indent ++ e.declaration ++ ";"]
  | some body =>
    match Text.bodyLines (indent ++ style.indentUnit) body with
    -- a body of blank lines has no lines left, and is written like an empty one
    | [] => [indent ++ e.declaration ++ " \x7b\x7d"]
    | ls => (indent ++ e.declaration ++ " \x7b") :: ls ++ [indent ++ "\x7d"]

/-- The lines of a constructor or method, the last of them empty. -/
def lines (style : Style) (indent : String) (e : Executable) : List String :=
  Javadoc.commentLines indent e.shownDocumentation e.tags ++
    annotationLines indent e.options.annotations ++ e.implementation style indent ++ [""]

end Executable

namespace TypeHeader

/-- The types that the type extends or implements, with the words before them. -/
def heritage (h : TypeHeader) : String :=
  match h.kind with
  | .classType =>
    (match h.superclass with
      | some t => " extends " ++ t.text
      | none => "") ++
      (if h.interfaces.isEmpty then "" else " implements " ++ commaList h.interfaces)
  | .interfaceType =>
    if h.interfaces.isEmpty then "" else " extends " ++ commaList h.interfaces

/-- The header of the declaration, without the opening brace. -/
def declaration (h : TypeHeader) : String :=
  spaced [modifierText h.modifiers, h.kind.word,
      h.name ++ typeParameterList h.typeParameters] ++ h.heritage

/-- What the documentation of a type says beyond its text. -/
def tags (h : TypeHeader) : Javadoc.Tags where
  typeParameters := h.typeParameters
  see := h.see
  since := h.since
  authors := h.authors

/-- The lines before the header. -/
def preamble (indent : String) (h : TypeHeader) : List String :=
  Javadoc.commentLines indent h.documentation h.tags ++ annotationLines indent h.annotations

end TypeHeader

namespace Block

/-- What is written before a block whose category differs from that of the block before it. -/
def sectionOpening (style : Style) (indent : String) (category : Category) (afterBlank : Bool) :
    List String :=
  let gap := if afterBlank then [] else [""]
  if category.title.isEmpty then gap else gap ++ style.banner category.title indent ++ [""]

/-- The lines of blocks in order, given the tag of the category before them and whether the line
before them is empty. -/
def sectionLines (style : Style) (indent : String) :
    (previous : String) → (afterBlank : Bool) → List Block → List String
  | _, _, [] => []
  | previous, afterBlank, b :: bs =>
    (if b.category.tag = previous then []
      else sectionOpening style indent b.category afterBlank) ++
      b.lines ++ sectionLines style indent b.category.tag b.endsBlank bs

/-- Blocks in the order of their members. -/
def inOrder (bs : List Block) : List Block := bs.mergeSort fun a b => a.key.precedes b.key

/-- The lines of a type whose members are written as the given blocks. -/
def typeLines (style : Style) (indent : String) (h : TypeHeader) (bs : List Block) :
    List String :=
  h.preamble indent ++
    match bs with
    | [] => [indent ++ h.declaration ++ " \x7b\x7d"]
    | bs =>
      -- the empty line behind the brace serves as the gap before the first section
      (indent ++ h.declaration ++ " \x7b") :: "" ::
        sectionLines style (indent ++ style.indentUnit) "" true (inOrder bs) ++
        [indent ++ "\x7d"]

end Block

namespace Member

mutual
/-- A member as it is written at an indentation. -/
def block (style : Style) (indent : String) : Member → Block
  | .field f => ⟨key (.field f), f.category, f.lines indent, false⟩
  | .executable e => ⟨key (.executable e), e.category, e.lines style indent, true⟩
  | .type header identities members =>
    ⟨key (.type header identities members), header.category,
      Block.typeLines style indent header (blocks style (indent ++ style.indentUnit) members) ++
        [""], true⟩

/-- The blocks of the members of a list. -/
def blocks (style : Style) (indent : String) : List Member → List Block
  | [] => []
  | m :: ms => block style indent m :: blocks style indent ms
end

/-- The lines of a member, and whether the last of them is empty. -/
def lines (style : Style) (indent : String) (m : Member) : List String × Bool :=
  ((m.block style indent).lines, (m.block style indent).endsBlank)

end Member

namespace TypeDecl

/-- The lines of a type at an indentation. -/
def lines (style : Style) (indent : String) (t : TypeDecl) : List String :=
  Block.typeLines style indent t.header
    (Member.blocks style (indent ++ style.indentUnit) t.members)

end TypeDecl

end JavaScribe
