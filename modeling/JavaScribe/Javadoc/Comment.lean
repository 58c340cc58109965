import JavaScribe.Text.Dedent
import JavaScribe.TypeExpr.Annotation

/-!
# Documentation comments

Documentation is usually indented along with the declarations around it.  Its normal form has no
margin, no blank lines at its ends and no white space at the end of a line.

A documentation comment holds the normal form of a text and groups of tags.  A single line of text
without tags makes a comment of one line.  Anything else makes a block with one line for each line
of the text and for each tag; an empty line stands between the text and the first group, and
between groups.  Where there is nothing to say there is no comment.
-/

set_option autoImplicit false

namespace JavaScribe.Javadoc

/-- The characters of the normal form of a documentation text. -/
def normalChars (cs : List Char) : List Char :=
  let unframed := Text.trim Text.isNewline (Text.dedent cs)
  let tidied := (Text.splitLines unframed).map (Text.trimEnd Text.isBlank)
  Text.trim Text.isBlank (Text.joinLines tidied)

/-- The normal form of a documentation text. -/
def normalize (s : String) : String := String.ofList (normalChars s.toList)

/-- What the tags of a comment say. -/
structure Tags where
  typeParameters : List TypeParameter := []
  parameters : List Parameter := []
  returnDoc : String := ""
  throws : List String := []
  see : List String := []
  since : String := ""
  authors : List String := []

namespace Tags

/-- The tag of a type parameter, if it is documented. -/
def typeParameterTag? (p : TypeParameter) : Option String :=
  if p.documentation.isEmpty then none
  else some ("@param <" ++ p.name ++ "> " ++ Text.collapse p.documentation)

/-- The tag of a parameter, if it is documented. -/
def parameterTag? (p : Parameter) : Option String :=
  if p.documentation.isEmpty then none
  else some ("@param " ++ p.name ++ " " ++ Text.collapse p.documentation)

/-- The tags of the documented parameters, type parameters first. -/
def parameterGroup (t : Tags) : List String :=
  t.typeParameters.filterMap typeParameterTag? ++ t.parameters.filterMap parameterTag?

/-- A group of one tag, or none if its text is empty. -/
def single (text tag : String) : List String := if text.isEmpty then [] else [tag]

/-- The groups of tags that are not empty, in the order in which they are written. -/
def groups (t : Tags) : List (List String) :=
  [ t.parameterGroup,
    single t.returnDoc ("@return " ++ Text.collapse t.returnDoc),
    t.throws.map fun x => "@throws " ++ Text.collapse x,
    t.see.map fun x => "@see " ++ x,
    single t.since ("@since " ++ t.since),
    t.authors.map fun x => "@author " ++ x ].filter fun g => !g.isEmpty

end Tags

/-- The lines of a documentation text; an empty text has none. -/
def textLines (documentation : String) : List String :=
  let text := normalize documentation
  if text.isEmpty then [] else Text.lines text

/-- The lines of a block, without their frame: the text and the groups, one empty line apart. -/
def blockBody (text : List String) (groups : List (List String)) : List String :=
  [""].intercalate ((text :: groups).filter fun g => !g.isEmpty)

/-- A line of a block in its frame. -/
def framed (indent line : String) : String :=
  if line.isEmpty then indent ++ " *" else indent ++ " * " ++ line

/-- The comment for a documentation text and tags, empty if there is nothing to say. -/
def comment (indent documentation : String) (tags : Tags) : String :=
  match textLines documentation, tags.groups with
  | [], [] => ""
  | [line], [] => indent ++ "/** " ++ line ++ " */"
  | text, groups =>
    Text.unlines ((indent ++ "/**") :: (blockBody text groups).map (framed indent) ++
      [indent ++ " */"])

/-- The lines of a comment; where there is no comment there are none. -/
def commentLines (indent documentation : String) (tags : Tags) : List String :=
  let text := comment indent documentation tags
  if text.isEmpty then [] else Text.lines text

/-- The text that a method without documentation has when it takes the place of another one. -/
def inherited : String := "\x7b@inheritDoc\x7d"

end JavaScribe.Javadoc
