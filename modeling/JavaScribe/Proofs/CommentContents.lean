import JavaScribe.Proofs.CommentFrames

/-!
# Reading a comment back

What a comment was made from can be read back from its lines.  Taking the frame away leaves the
lines of the normal text and then the groups of tags, one empty line apart, and nothing is lost or
added (`Javadoc.comment_read_back`).  A line of the text may be empty or look like a tag, but the
text neither starts nor ends with an empty line, and the lines of a tag are never empty, so behind
the text every empty line parts two groups.

The written comment has these lines as long as nothing in it brings a newline along.
`Javadoc.commentLines_eq` says so, and what else is to be known of the lines of a comment can be
told from `Javadoc.layout`.
-/

set_option autoImplicit false

namespace JavaScribe.Javadoc

open Text

/-! ## The lines of a comment -/

/-- Two ways to leave out empty lists. -/
theorem filter_not_isEmpty {α : Type} [DecidableEq α] (ls : List (List α)) :
    ls.filter (fun l => !l.isEmpty) = ls.filter (· ≠ []) := by
  apply List.filter_congr
  intro l _
  cases l <;> rfl

/-- The body of a comment consists of its parts that are not empty, with an empty line between
two. -/
theorem blockBody_eq (text : List String) (groups : List (List String)) :
    blockBody text groups = [""].intercalate ((text :: groups).filter (· ≠ [])) := by
  rw [blockBody, filter_not_isEmpty]

/-- A framed line is never empty. -/
theorem framed_ne_empty (indent line : String) : framed indent line ≠ "" := by
  unfold framed
  split <;> simp

/-- The lines of the comment for the lines of a text and groups of tags. -/
def layout (indent : String) (text : List String) (groups : List (List String)) : List String :=
  match text, groups with
  | [], [] => []
  | [line], [] => [indent ++ "/** " ++ line ++ " */"]
  | text, groups => blockLines indent (blockBody text groups) ++ [indent ++ " */"]

section Layout

variable {indent : String} {text : List String} {groups : List (List String)}

/-- A comment is laid out in one of three ways: as nothing, as a single line, or as a block. -/
theorem layout_cases (indent : String) (text : List String) (groups : List (List String)) :
    (text = [] ∧ groups = [] ∧ layout indent text groups = []) ∨
      (∃ line, text = [line] ∧ groups = [] ∧
        layout indent text groups = [indent ++ "/** " ++ line ++ " */"]) ∨
      ((groups = [] → text.length ≠ 0 ∧ text.length ≠ 1) ∧
        layout indent text groups =
          blockLines indent (blockBody text groups) ++ [indent ++ " */"]) := by
  unfold layout
  split
  · exact .inl ⟨rfl, rfl, rfl⟩
  · next line => exact .inr (.inl ⟨line, rfl, rfl, rfl⟩)
  · next hnone hone =>
    refine .inr (.inr ⟨?_, rfl⟩)
    rintro rfl
    constructor
    · intro hlength
      exact hnone (List.length_eq_zero_iff.mp hlength) rfl
    · intro hlength
      obtain ⟨line, rfl⟩ := List.length_eq_one_iff.mp hlength
      exact hone line rfl rfl

/-- A comment is laid out as nothing just if there is neither text nor tags. -/
theorem layout_eq_nil_iff (indent : String) :
    layout indent text groups = [] ↔ text = [] ∧ groups = [] := by
  obtain ⟨rfl, rfl, h⟩ | ⟨line, rfl, rfl, h⟩ | ⟨hmany, h⟩ := layout_cases indent text groups
  · simp [h]
  · simp [h]
  · rw [h]
    refine iff_of_false (by simp [blockLines]) ?_
    rintro ⟨rfl, rfl⟩
    exact (hmany rfl).1 rfl

/-- The lines of a comment are single lines if its text and tags are. -/
theorem newline_not_mem_of_mem_layout (hindent : '\n' ∉ indent.toList)
    (h : ∀ line ∈ text ++ groups.flatten, '\n' ∉ line.toList) :
    ∀ line ∈ layout indent text groups, '\n' ∉ line.toList := by
  obtain ⟨-, -, hlayout⟩ | ⟨line, rfl, rfl, hlayout⟩ | ⟨-, hlayout⟩ :=
    layout_cases indent text groups
  · simp [hlayout]
  · simp [hlayout, hindent, h line]
  · intro line hline
    rw [hlayout] at hline
    obtain hline | hline := List.mem_append.mp hline
    · exact newline_not_mem_of_mem_blockLines hindent
        (fun l hl => newline_not_mem_of_mem_blockBody h hl) line hline
    · rw [List.mem_singleton.mp hline]
      simp [hindent]

end Layout

section Written

variable {indent documentation : String} {tags : Tags}

/-- A comment is the text of its lines. -/
theorem comment_eq_unlines (indent documentation : String) (tags : Tags) :
    comment indent documentation tags =
      unlines (layout indent (textLines documentation) tags.groups) := by
  unfold comment
  generalize textLines documentation = text
  generalize tags.groups = groups
  match text, groups with
  | [], [] => exact String.intercalate_nil.symm
  | [line], [] => exact String.intercalate_singleton.symm
  | [], group :: groups => rfl
  | [line], group :: groups => rfl
  | first :: second :: text, groups => rfl

/-- No line of a comment is empty. -/
theorem ne_empty_of_mem_layout {text : List String} {groups : List (List String)} :
    ∀ line ∈ layout indent text groups, line ≠ "" := by
  obtain ⟨-, -, hlayout⟩ | ⟨line, rfl, rfl, hlayout⟩ | ⟨-, hlayout⟩ :=
    layout_cases indent text groups
  · simp [hlayout]
  · simp [hlayout]
  · intro line hline
    rw [hlayout, blockLines] at hline
    obtain rfl | hline := List.mem_cons.mp hline
    · simp
    obtain hline | hline := List.mem_append.mp hline
    · obtain ⟨l, -, rfl⟩ := List.mem_map.mp hline
      exact framed_ne_empty indent l
    · rw [List.mem_singleton.mp hline]
      simp

/-- There are no lines of text just if the normal form of the documentation is empty. -/
theorem textLines_eq_nil_iff : textLines documentation = [] ↔ normalize documentation = "" := by
  simp only [textLines, String.isEmpty_iff, ite_eq_left_iff]
  constructor
  · intro h
    by_contra hne
    exact lines_ne_nil _ (h hne)
  · exact fun h hne => absurd h hne

/-- A comment is empty exactly if it has nothing to say. -/
theorem comment_eq_empty_iff :
    comment indent documentation tags = "" ↔
      normalize documentation = "" ∧ tags.groups = [] := by
  rw [comment_eq_unlines, ← textLines_eq_nil_iff, ← layout_eq_nil_iff indent]
  constructor
  · intro hempty
    by_contra hne
    exact unlines_ne_empty hne ne_empty_of_mem_layout hempty
  · intro hnil
    rw [hnil]
    rfl

/-- The lines of a comment are the ones it was put together from. -/
theorem lines_comment (hindent : '\n' ∉ indent.toList)
    (hgroups : ∀ line ∈ tags.groups.flatten, '\n' ∉ line.toList)
    (hne : comment indent documentation tags ≠ "") :
    lines (comment indent documentation tags) =
      layout indent (textLines documentation) tags.groups := by
  rw [comment_eq_unlines] at hne ⊢
  apply lines_unlines
  · apply newline_not_mem_of_mem_layout hindent
    intro line hline
    obtain hline | hline := List.mem_append.mp hline
    · exact newline_not_mem_of_mem_textLines hline
    · exact hgroups line hline
  · intro hnil
    exact hne (by rw [hnil]; rfl)

/-- The lines of a comment are the ones that were laid out. -/
theorem commentLines_eq (hindent : '\n' ∉ indent.toList)
    (hgroups : ∀ line ∈ tags.groups.flatten, '\n' ∉ line.toList) :
    commentLines indent documentation tags =
      layout indent (textLines documentation) tags.groups := by
  simp only [commentLines, String.isEmpty_iff]
  split
  · next hempty =>
    rw [comment_eq_empty_iff, ← textLines_eq_nil_iff] at hempty
    exact ((layout_eq_nil_iff indent).mpr hempty).symm
  · next hne => exact lines_comment hindent hgroups hne

end Written

/-! ## The tags -/

namespace Tags

/-- The tags of each kind, in the order in which the kinds are written.  A parameter has a tag if it
is documented, and type parameters come first. -/
def kinds (t : Tags) : List (List String) :=
  [ ((t.typeParameters.filter fun p => p.documentation ≠ "").map fun p =>
        "@param <" ++ p.name ++ "> " ++ collapse p.documentation) ++
      ((t.parameters.filter fun p => p.documentation ≠ "").map fun p =>
        "@param " ++ p.name ++ " " ++ collapse p.documentation),
    if t.returnDoc = "" then [] else ["@return " ++ collapse t.returnDoc],
    t.throws.map fun text => "@throws " ++ collapse text,
    t.see.map fun text => "@see " ++ text,
    if t.since = "" then [] else ["@since " ++ t.since],
    t.authors.map fun text => "@author " ++ text ]

/-- The groups of a comment are the kinds of tags that there are any of. -/
theorem groups_eq_filter_kinds (t : Tags) : t.groups = t.kinds.filter (· ≠ []) := by
  have hparameters : t.parameterGroup =
      ((t.typeParameters.filter fun p => p.documentation ≠ "").map fun p =>
          "@param <" ++ p.name ++ "> " ++ collapse p.documentation) ++
        ((t.parameters.filter fun p => p.documentation ≠ "").map fun p =>
          "@param " ++ p.name ++ " " ++ collapse p.documentation) := by
    rw [parameterGroup, ← List.filterMap_eq_map, ← List.filterMap_eq_map, List.filterMap_filter,
      List.filterMap_filter]
    congr 1
    · apply List.filterMap_congr
      intro p _
      simp [typeParameterTag?, String.isEmpty_iff]
    · apply List.filterMap_congr
      intro p _
      simp [parameterTag?, String.isEmpty_iff]
  have hsingle (text tag : String) : single text tag = if text = "" then [] else [tag] := by
    simp only [single, String.isEmpty_iff]
  rw [groups, kinds, hparameters, hsingle, hsingle, filter_not_isEmpty]

/-- No tag is written as an empty line. -/
theorem ne_empty_of_mem_groups {t : Tags} {line : String} (h : line ∈ t.groups.flatten) :
    line ≠ "" := by
  obtain ⟨head, text, shown, hwrites, rfl⟩ := mem_flatten_groups_iff.mp h
  cases hwrites <;> simp

end Tags

/-! ## Reading -/

section Reading

variable {indent : String}

/-- The text of a line of a block, its frame taken away. -/
def unframe? (indent line : String) : Option String :=
  if line = indent ++ " *" then some ""
  else (line.toList.dropPrefix? (indent ++ " * ").toList).map String.ofList

/-- The text of a comment of one line, its frame taken away. -/
def unframeOnly? (indent line : String) : Option String :=
  (line.toList.dropPrefix? (indent ++ "/** ").toList).bind fun rest =>
    (rest.dropSuffix? " */".toList).map String.ofList

/-- What the lines of a comment say: without their frame, and without the first and the last line of
a block. -/
def unframed? (indent : String) : List String → Option (List String)
  | [] => some []
  | [line] => (unframeOnly? indent line).map fun text => [text]
  | first :: second :: more =>
    let rest := second :: more
    if first = indent ++ "/**" ∧ rest.getLast? = some (indent ++ " */") then
      rest.dropLast.mapM (unframe? indent)
    else none

/-- A framed line is read back without its frame. -/
theorem unframe?_framed (indent line : String) :
    unframe? indent (framed indent line) = some line := by
  unfold framed
  split
  · next hempty => rw [unframe?, if_pos rfl, String.isEmpty_iff.mp hempty]
  · have hne : indent ++ " * " ++ line ≠ indent ++ " *" := by
      intro h
      have hlength := congrArg String.length h
      simp only [String.length_append] at hlength
      have hframe : " * ".length = " *".length + 1 := rfl
      omega
    rw [unframe?, if_neg hne, String.toList_append, List.dropPrefix?_append_of_beq _ BEq.rfl,
      Option.map_some, String.ofList_toList]

/-- A comment of one line is read back without its frame. -/
theorem unframeOnly?_oneLine (indent line : String) :
    unframeOnly? indent (indent ++ "/** " ++ line ++ " */") = some line := by
  have hend : (line.toList ++ " */".toList).dropSuffix? " */".toList = some line.toList :=
    List.dropSuffix?_eq_some_iff.mpr ⟨_, rfl, BEq.rfl⟩
  rw [unframeOnly?, String.toList_append, String.toList_append (t := line), List.append_assoc,
    List.dropPrefix?_append_of_beq _ BEq.rfl, Option.bind_some, hend, Option.map_some,
    String.ofList_toList]

/-- A block is read back without its frame. -/
theorem unframed?_block (indent : String) (body : List String) :
    unframed? indent (blockLines indent body ++ [indent ++ " */"]) = some body := by
  obtain ⟨second, more, hrest⟩ :=
    List.exists_cons_of_ne_nil (l := body.map (framed indent) ++ [indent ++ " */"]) (by simp)
  rw [blockLines, List.cons_append, hrest, unframed?, ← hrest, List.getLast?_concat,
    if_pos ⟨rfl, rfl⟩, List.dropLast_concat, List.mapM_map]
  have hread : unframe? indent ∘ framed indent = some := funext (unframe?_framed indent)
  rw [hread]
  simpa using List.mapM_pure (m := Option) (f := id) (l := body)

/-- The frame can be taken away from a comment. -/
theorem unframed?_layout (indent : String) (text : List String) (groups : List (List String)) :
    unframed? indent (layout indent text groups) = some (blockBody text groups) := by
  obtain ⟨rfl, rfl, h⟩ | ⟨line, rfl, rfl, h⟩ | ⟨-, h⟩ := layout_cases indent text groups
  · rw [h]
    rfl
  · rw [h, unframed?, unframeOnly?_oneLine]
    rfl
  · rw [h, unframed?_block]

end Reading

section Contents

variable {indent documentation : String} {tags : Tags}

/-- The text of a comment neither starts nor ends with an empty line. -/
theorem textLines_ends (documentation : String) :
    "" ∉ (textLines documentation).head? ∧ "" ∉ (textLines documentation).getLast? := by
  have hnormal : IsNormal (normalize documentation).toList := by
    rw [normalize, String.toList_ofList]
    exact isNormal_normalChars _
  simp only [textLines, String.isEmpty_iff]
  split
  · simp
  · next hne =>
    rw [← unlines_lines (normalize documentation)] at hnormal hne
    generalize lines (normalize documentation) = ls at hnormal hne
    constructor
    · intro hfirst
      obtain ⟨rest, rfl⟩ := List.head?_eq_some_iff.mp hfirst
      have hrest : rest ≠ [] := by
        rintro rfl
        exact hne String.intercalate_singleton
      -- the text would start with the newline behind its empty line
      have hnewline := hnormal.trimmed.first '\n' (by simp [unlines_cons hrest])
      cases hnewline
    · intro hlast
      obtain ⟨rest, rfl⟩ := List.getLast?_eq_some_iff.mp hlast
      have hrest : rest ≠ [] := by
        rintro rfl
        exact hne String.intercalate_singleton
      have hnewline := hnormal.trimmed.last '\n' (by simp [unlines_concat hrest])
      cases hnewline

/-- A comment has one line just if it has one line of text and no tags. -/
theorem comment_oneLine_iff :
    (∃ line, comment indent documentation tags = indent ++ "/** " ++ line ++ " */") ↔
      (textLines documentation).length = 1 ∧ tags.groups = [] := by
  rw [comment_eq_unlines]
  obtain ⟨htext, hgroups, h⟩ | ⟨line, htext, hgroups, h⟩ | ⟨hmany, h⟩ :=
    layout_cases indent (textLines documentation) tags.groups
  · rw [h, htext]
    refine iff_of_false ?_ (by simp)
    rintro ⟨line, hline⟩
    have hopens : '*' ∈ (unlines []).toList := by simp [hline]
    exact absurd hopens List.not_mem_nil
  · rw [h, htext, unlines, String.intercalate_singleton]
    exact iff_of_true ⟨line, rfl⟩ ⟨rfl, hgroups⟩
  · rw [h]
    refine iff_of_false ?_ fun hone => (hmany hone.2).2 hone.1
    rintro ⟨line, hline⟩
    have hchars := congrArg String.toList hline
    rw [blockLines, List.cons_append, unlines_cons (by simp)] at hchars
    simp only [String.toList_append, List.append_assoc, List.append_cancel_left_eq] at hchars
    -- behind the star the block goes on with a new line, and the other comment with a space
    cases hchars

/-- What a comment says can be read back from it. It is empty exactly if there is nothing to say,
and it has one line exactly if it says one line of text.  Its lines without their frame are the
lines of the normal text and the tags, kind by kind, with one empty line between the text and the
first kind and between kinds. -/
theorem comment_read_back (indent documentation : String) (tags : Tags)
    (htypeParameters : ∀ p ∈ tags.typeParameters, isIdentifier p.name = true)
    (hparameters : ∀ p ∈ tags.parameters, isIdentifier p.name = true)
    (hverbatim : ∀ text ∈ tags.see ++ tags.since :: tags.authors, '\n' ∉ text.toList) :
    let text := if normalize documentation = "" then [] else lines (normalize documentation)
    let groups := tags.kinds.filter (· ≠ [])
    let written := comment indent documentation tags
    (written = "" ↔ normalize documentation = "" ∧ groups = []) ∧
      ((∃ line, written = indent ++ "/** " ++ line ++ " */") ↔ text.length = 1 ∧ groups = []) ∧
      (∃ ls, written = unlines ls ∧ (written ≠ "" → '\n' ∉ indent.toList → lines written = ls) ∧
        unframed? indent ls = some ([""].intercalate ((text :: groups).filter (· ≠ [])))) ∧
      "" ∉ text.head? ∧ "" ∉ text.getLast? ∧ ∀ group ∈ groups, "" ∉ group := by
  intro text groups written
  have htext : text = textLines documentation := by
    simp only [text, textLines, String.isEmpty_iff]
  have hgroups : groups = tags.groups := tags.groups_eq_filter_kinds.symm
  have hnewline :=
    Tags.newline_not_mem_of_mem_groups htypeParameters hparameters hverbatim
  obtain ⟨hfirst, hlast⟩ := textLines_ends documentation
  rw [← htext] at hfirst hlast
  refine ⟨?empty, ?oneLine, ⟨layout indent text groups, ?written, ?lines, ?read⟩, hfirst, hlast,
    ?groups⟩
  case empty =>
    rewrite [hgroups]
    exact comment_eq_empty_iff
  case oneLine =>
    rewrite [htext, hgroups]
    exact comment_oneLine_iff
  case written =>
    rewrite [htext, hgroups]
    exact comment_eq_unlines indent documentation tags
  case lines =>
    intro hne hindent
    rw [htext, hgroups]
    exact lines_comment hindent hnewline hne
  case read => rw [unframed?_layout, blockBody_eq]
  case groups =>
    intro group hgroup hmem
    rw [hgroups] at hgroup
    exact Tags.ne_empty_of_mem_groups (List.mem_flatten.mpr ⟨group, hgroup, hmem⟩) rfl

end Contents

/-- A comment whose text has an empty line and one that looks like a tag, with a parameter that is
not documented and without a tag for the result. -/
theorem comment_read_back_block :
    let documentation := "\n    Moves it.\n\n      @see   nothing  \n"
    let tags : Tags :=
      { typeParameters := [⟨"T", "the\n type", []⟩]
        parameters := [⟨.var "T", "t", "", []⟩, ⟨.primitive "int", "n", "how  far", []⟩]
        see := ["#stop()", "#go()"]
        authors := ["A"] }
    let ls := ["\t/**", "\t * Moves it.", "\t *", "\t *   @see   nothing", "\t *",
      "\t * @param <T> the type", "\t * @param n how far", "\t *", "\t * @see #stop()",
      "\t * @see #go()", "\t *", "\t * @author A", "\t */"]
    let written := comment "\t" documentation tags
    written = unlines ls ∧ lines written = ls ∧
      unframed? "\t" ls = some ["Moves it.", "", "  @see   nothing", "", "@param <T> the type",
        "@param n how far", "", "@see #stop()", "@see #go()", "", "@author A"] := by
  intro documentation tags ls written
  have htypeParameters : ∀ p ∈ tags.typeParameters, isIdentifier p.name = true := by decide
  have hparameters : ∀ p ∈ tags.parameters, isIdentifier p.name = true := by decide
  have hverbatim : ∀ text ∈ tags.see ++ tags.since :: tags.authors, '\n' ∉ text.toList := by decide
  have hindent : '\n' ∉ "\t".toList := by decide
  have hne : written ≠ "" := by decide
  obtain ⟨-, -, ⟨ls', -, hlines, hread⟩, -⟩ :=
    comment_read_back "\t" documentation tags htypeParameters hparameters hverbatim
  have hcomment : written = unlines ls := by decide
  have hls : lines written = ls :=
    (congrArg lines hcomment).trans (lines_unlines (by decide) (List.cons_ne_nil _ _))
  rw [(hlines hne hindent).symm.trans hls] at hread
  exact ⟨hcomment, hls, hread.trans (by decide)⟩

end JavaScribe.Javadoc
