import JavaScribe.Text.Blank

/-!
# Lines

A line ends at a newline and nowhere else.  A text with `n` newlines has `n + 1` lines, the last
of which may be empty, so splitting and joining undo each other.
-/

set_option autoImplicit false

namespace JavaScribe.Text

/-- The lines of a text, without their newlines. -/
def splitLines (cs : List Char) : List (List Char) := cs.splitOn '\n'

/-- The text with the given lines. -/
def joinLines (ls : List (List Char)) : List Char := ['\n'].intercalate ls

/-- The lines of a text make up the text again. -/
theorem joinLines_splitLines (cs : List Char) : joinLines (splitLines cs) = cs :=
  List.intercalate_splitOn '\n'

/-- Lines without newlines are the lines of the text that they make up. -/
theorem splitLines_joinLines {ls : List (List Char)} (h : ∀ l ∈ ls, '\n' ∉ l) (hne : ls ≠ []) :
    splitLines (joinLines ls) = ls :=
  List.splitOn_intercalate '\n' h hne

/-- The lines of a text, of which there is at least one. -/
def lines (s : String) : List String := (splitLines s.toList).map String.ofList

/-- The text of some lines. -/
def unlines (ls : List String) : String := "\n".intercalate ls

/-- The lines of a text make up the text again. -/
theorem unlines_lines (s : String) : unlines (lines s) = s := by
  apply String.toList_injective
  simp [unlines, lines, String.toList_intercalate, Function.comp_def, splitLines,
    List.intercalate_splitOn]

/-- Lines without newlines are the lines of the text that they make up. -/
theorem lines_unlines {ls : List String} (h : ∀ l ∈ ls, '\n' ∉ l.toList) (hne : ls ≠ []) :
    lines (unlines ls) = ls := by
  have hs : splitLines (unlines ls).toList = ls.map String.toList := by
    rw [unlines, String.toList_intercalate]
    exact splitLines_joinLines (by simpa using h) (by simpa using hne)
  simp [lines, hs, Function.comp_def]

/-- Every line freed of its trailing white space, and the lines joined by `ending`. -/
def tidyLines (ending : String) (s : String) : String :=
  ending.intercalate ((splitLines s.toList).map fun l => String.ofList (trimEnd isBlank l))

end JavaScribe.Text
