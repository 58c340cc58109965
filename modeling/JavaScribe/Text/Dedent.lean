import JavaScribe.Text.Line

/-!
# Margins

The margin of a block of lines is the longest run of spaces and tabs that every line with other
text starts with; a tab and a space differ.  Removing the margin keeps the shape of the block.
Lines of spaces and tabs alone have no say in the margin and become empty.

The body of a method is a block of lines that is moved to the indentation of its place.  Blank
lines at its ends and its own margin go, blank lines inside become empty, and white space at the
end of a line goes.
-/

set_option autoImplicit false

namespace JavaScribe.Text

/-- The longest common start of two texts. -/
def commonStart : List Char → List Char → List Char
  | a :: as, b :: bs => if a = b then a :: commonStart as bs else []
  | _, _ => []

/-- A line of spaces and tabs alone becomes empty. -/
def clearBlankLine (l : List Char) : List Char := if l.all isIndent then [] else l

/-- The longest common start of a list of texts, empty for no texts. -/
def commonStartAll : List (List Char) → List Char
  | [] => []
  | l :: ls => ls.foldl commonStart l

/-- The margin of a block: the common indentation of its lines that hold other text. -/
def margin (ls : List (List Char)) : List Char :=
  commonStartAll ((ls.filter (!·.all isIndent)).map (·.takeWhile isIndent))

/-- Removes a margin from a line that starts with it. -/
def dropMargin (m l : List Char) : List Char := if m.isPrefixOf l then l.drop m.length else l

/-- The block without its margin. -/
def dedentLines (ls : List (List Char)) : List (List Char) :=
  let m := margin ls
  ls.map fun l => dropMargin m (clearBlankLine l)

/-- The text without the margin of its lines. -/
def dedent (cs : List Char) : List Char := joinLines (dedentLines (splitLines cs))

/-! ## Bodies -/

/-- Drops the blank lines at both ends of a block. -/
def trimBlankLines (ls : List (List Char)) : List (List Char) :=
  ((ls.dropWhile (·.all isBlank)).reverse.dropWhile (·.all isBlank)).reverse

/-- A line of a body at its place. -/
def placedLine (indent l : List Char) : List Char :=
  if l.all isBlank then [] else indent ++ trimEnd isBlank l

/-- The lines of a body at an indentation. -/
def bodyLines (indent : String) (body : String) : List String :=
  (dedentLines (trimBlankLines (splitLines body.toList))).map fun l =>
    String.ofList (placedLine indent.toList l)

end JavaScribe.Text
