import JavaScribe.Javadoc.Comment
import JavaScribe.Proofs.TidyLines
import Mathlib.Data.List.Forall2

/-!
# Margins and where a block stands

Bodies and documentation are written with the indentation of the code around them, which says
nothing: a text that is moved to the right as a whole has the same body and the same normal form
(`Text.indented_read_alike`).

A block is `Moved` by a margin if each of its lines has the margin in front of it.  A line of spaces
and tabs alone may have any length, for it has no say in the margin of a block and becomes empty.
Moving a block puts the margin in front of the margin that the block had (`Moved.margin_eq`), and so
the block without its margin stays the same (`Moved.dedentLines_eq`).
-/

set_option autoImplicit false

namespace JavaScribe

namespace Text

/-- Indentation is white space. -/
theorem isBlank_of_isIndent {c : Char} (h : isIndent c = true) : isBlank c = true := by
  unfold isIndent at h
  rw [Bool.or_eq_true, beq_iff_eq, beq_iff_eq] at h
  rcases h with rfl | rfl <;> rfl

/-- What is made of indentation is blank. -/
theorem all_isBlank_of_all_isIndent {l : List Char} (h : l.all isIndent = true) :
    l.all isBlank = true := by
  rw [List.all_eq_true] at h ⊢
  exact fun c hc => isBlank_of_isIndent (h c hc)

/-! ## Common starts -/

/-- What both texts start with comes off their common start. -/
theorem commonStart_append (p a b : List Char) :
    commonStart (p ++ a) (p ++ b) = p ++ commonStart a b := by
  induction p with
  | nil => rfl
  | cons c p ih =>
    rw [List.cons_append, List.cons_append, commonStart, if_pos rfl, ih, List.cons_append]

/-- The common start is a start of the first text. -/
theorem commonStart_prefix_left (a b : List Char) : commonStart a b <+: a := by
  induction a generalizing b with
  | nil => exact List.nil_prefix
  | cons c a ih =>
    cases b with
    | nil => exact List.nil_prefix
    | cons d b =>
      rw [commonStart]
      split
      · exact List.cons_prefix_cons.mpr ⟨rfl, ih b⟩
      · exact List.nil_prefix

/-- The common start is a start of the second text. -/
theorem commonStart_prefix_right (a b : List Char) : commonStart a b <+: b := by
  induction a generalizing b with
  | nil => exact List.nil_prefix
  | cons c a ih =>
    cases b with
    | nil => exact List.nil_prefix
    | cons d b =>
      rw [commonStart]
      split
      · next h => exact List.cons_prefix_cons.mpr ⟨h, ih b⟩
      · exact List.nil_prefix

/-- The common start of several texts is a start of each of them. -/
theorem foldl_commonStart_prefix (a : List Char) (ls : List (List Char)) :
    ls.foldl commonStart a <+: a ∧ ∀ l ∈ ls, ls.foldl commonStart a <+: l := by
  induction ls generalizing a with
  | nil => exact ⟨List.prefix_rfl, fun l hl => absurd hl List.not_mem_nil⟩
  | cons b ls ih =>
    obtain ⟨hstart, hrest⟩ := ih (commonStart a b)
    rw [List.foldl_cons]
    refine ⟨hstart.trans (commonStart_prefix_left a b), fun l hl => ?_⟩
    obtain rfl | hl := List.mem_cons.mp hl
    · exact hstart.trans (commonStart_prefix_right a l)
    · exact hrest l hl

/-- The common start of all texts is a start of each of them. -/
theorem commonStartAll_prefix_of_mem {ls : List (List Char)} {l : List Char} (h : l ∈ ls) :
    commonStartAll ls <+: l := by
  cases ls with
  | nil => exact absurd h List.not_mem_nil
  | cons a ls =>
    obtain ⟨hfirst, hrest⟩ := foldl_commonStart_prefix a ls
    obtain rfl | h := List.mem_cons.mp h
    · exact hfirst
    · exact hrest l h

/-- What all texts start with comes off their common start, given a first text. -/
theorem foldl_commonStart_append (p a : List Char) (ls : List (List Char)) :
    (ls.map (p ++ ·)).foldl commonStart (p ++ a) = p ++ ls.foldl commonStart a := by
  induction ls generalizing a with
  | nil => rfl
  | cons b ls ih => rw [List.map_cons, List.foldl_cons, List.foldl_cons, commonStart_append, ih]

/-- What all texts start with comes off their common start, if there are any. -/
theorem commonStartAll_map_append (p : List Char) {ls : List (List Char)} (h : ls ≠ []) :
    commonStartAll (ls.map (p ++ ·)) = p ++ commonStartAll ls := by
  cases ls with
  | nil => exact absurd rfl h
  | cons a ls => exact foldl_commonStart_append p a ls

/-! ## Margins -/

variable {p l l' : List Char} {ls ls' : List (List Char)}

/-- The margin is at most the indentation of a line with other text. -/
theorem margin_prefix_takeWhile (hl : l ∈ ls) (htext : l.all isIndent = false) :
    margin ls <+: l.takeWhile isIndent :=
  commonStartAll_prefix_of_mem (List.mem_map_of_mem (List.mem_filter.mpr ⟨hl, by rw [htext]; rfl⟩))

/-- A line with other text starts with the margin. -/
theorem margin_prefix (hl : l ∈ ls) (htext : l.all isIndent = false) : margin ls <+: l :=
  (margin_prefix_takeWhile hl htext).trans (List.takeWhile_prefix isIndent)

/-- A margin consists of spaces and tabs. -/
theorem isIndent_of_mem_margin {c : Char} (hc : c ∈ margin ls) : isIndent c = true := by
  unfold margin at hc
  cases htexts : ls.filter (!·.all isIndent) with
  | nil =>
    rw [htexts] at hc
    exact absurd hc List.not_mem_nil
  | cons l texts =>
    rw [htexts, List.map_cons] at hc
    have hmem := (commonStartAll_prefix_of_mem List.mem_cons_self).mem hc
    exact List.mem_takeWhile_imp hmem

/-- A line of indentation alone becomes empty. -/
theorem clearBlankLine_of_all (h : l.all isIndent = true) : clearBlankLine l = [] := if_pos h

/-- A line with other text stays as it is. -/
theorem clearBlankLine_of_not_all (h : l.all isIndent = false) : clearBlankLine l = l :=
  if_neg (by rw [h]; exact Bool.false_ne_true)

/-- Dropping a margin from a line that starts with it leaves the rest. -/
theorem dropMargin_append (m l : List Char) : dropMargin m (m ++ l) = l := by
  rw [dropMargin, if_pos (List.isPrefixOf_iff_prefix.mpr (List.prefix_append m l)),
    List.drop_left]

/-- There is no margin to drop from an empty line. -/
theorem dropMargin_nil (m : List Char) : dropMargin m [] = [] := by
  unfold dropMargin
  split
  · exact List.drop_nil
  · rfl

/-- A line of spaces and tabs alone becomes empty, whatever the margin is. -/
theorem dropMargin_clearBlankLine_of_all (m : List Char) (h : l.all isIndent = true) :
    dropMargin m (clearBlankLine l) = [] := by
  rw [clearBlankLine_of_all h, dropMargin_nil]

/-- A line with other text is the margin of its block and what is left without it. -/
theorem margin_append_dropMargin (hl : l ∈ ls) (htext : l.all isIndent = false) :
    margin ls ++ dropMargin (margin ls) (clearBlankLine l) = l := by
  obtain ⟨rest, hrest⟩ := margin_prefix hl htext
  rw [clearBlankLine_of_not_all htext]
  conv_lhs => rw [← hrest, dropMargin_append]
  exact hrest

/-! ## Moved blocks -/

/-- Whether the second line is the first one with a margin in front of it, or both are lines of
spaces and tabs alone. -/
def MovedLine (p l l' : List Char) : Prop :=
  l' = p ++ l ∨ (l.all isIndent = true ∧ l'.all isIndent = true)

/-- Whether the second block is the first one moved to the right by a margin. -/
def Moved (p : List Char) (ls ls' : List (List Char)) : Prop := List.Forall₂ (MovedLine p) ls ls'

/-- Putting a margin in front of every line moves the lines. -/
theorem moved_map_append (p : List Char) (ls : List (List Char)) :
    Moved p ls (ls.map (p ++ ·)) := by
  rw [Moved, List.forall₂_map_right_iff, List.forall₂_same]
  exact fun l _ => .inl rfl

/-- A moved line is made of indentation alone just if the line was. -/
theorem MovedLine.all_isIndent_eq (hp : p.all isIndent = true) (h : MovedLine p l l') :
    l'.all isIndent = l.all isIndent := by
  rcases h with rfl | ⟨hl, hl'⟩
  · rw [List.all_append, hp, Bool.true_and]
  · rw [hl, hl']

/-- A moved line is blank just if the line was. -/
theorem MovedLine.all_isBlank_eq (hp : p.all isIndent = true) (h : MovedLine p l l') :
    l'.all isBlank = l.all isBlank := by
  rcases h with rfl | ⟨hl, hl'⟩
  · rw [List.all_append, all_isBlank_of_all_isIndent hp, Bool.true_and]
  · rw [all_isBlank_of_all_isIndent hl, all_isBlank_of_all_isIndent hl']

/-- The lines with other text are moved along. -/
theorem Moved.filter_text (hp : p.all isIndent = true) (h : Moved p ls ls') :
    ls'.filter (!·.all isIndent) = (ls.filter (!·.all isIndent)).map (p ++ ·) := by
  induction h with
  | nil => rfl
  | @cons l l' ls ls' hline _ ih =>
    have hsame := hline.all_isIndent_eq hp
    cases hl : l.all isIndent with
    | true =>
      rw [List.filter_cons_of_neg (by simp [hsame, hl]), List.filter_cons_of_neg (by simp [hl]), ih]
    | false =>
      rcases hline with rfl | ⟨hl', -⟩
      · rw [List.filter_cons_of_pos (by simp [hsame, hl]), List.filter_cons_of_pos (by simp [hl]),
          ih, List.map_cons]
      · rw [hl] at hl'
        cases hl'

/-- Moving a block puts the margin in front of the one that it has. -/
theorem Moved.margin_eq (hp : p.all isIndent = true) (h : Moved p ls ls') (hl : l ∈ ls)
    (htext : l.all isIndent = false) : margin ls' = p ++ margin ls := by
  have hne : ls.filter (!·.all isIndent) ≠ [] :=
    List.ne_nil_of_mem (List.mem_filter.mpr ⟨hl, by rw [htext]; rfl⟩)
  have htake : ∀ k : List Char, (p ++ k).takeWhile isIndent = p ++ k.takeWhile isIndent :=
    fun k => List.takeWhile_append_of_pos (List.all_eq_true.mp hp)
  rw [margin, h.filter_text hp, List.map_map, margin,
    ← commonStartAll_map_append p (mt List.map_eq_nil_iff.mp hne),
    List.map_map]
  simp only [Function.comp_def, htake]

/-- Lists whose elements correspond have the same values under functions that agree on them. -/
theorem map_eq_map_of_forall₂ {α β γ : Type} {f : α → γ} {g : β → γ} {as : List α} {bs : List β}
    (h : List.Forall₂ (fun a b => g b = f a) as bs) : bs.map g = as.map f := by
  induction h with
  | nil => rfl
  | cons hline _ ih => rw [List.map_cons, List.map_cons, hline, ih]

/-- A block without its margin does not tell how far it was moved. -/
theorem Moved.dedentLines_eq (hp : p.all isIndent = true) (h : Moved p ls ls') :
    dedentLines ls' = dedentLines ls := by
  have hlines : List.Forall₂ (fun l l' => dropMargin (margin ls') (clearBlankLine l') =
      dropMargin (margin ls) (clearBlankLine l)) ls ls' := by
    refine ((List.forall₂_and_left ls ls').mpr ⟨fun l hl => hl, h⟩).imp fun l l' ⟨hl, hline⟩ => ?_
    have hsame := hline.all_isIndent_eq hp
    cases htext : l.all isIndent with
    | true =>
      rw [dropMargin_clearBlankLine_of_all _ htext,
        dropMargin_clearBlankLine_of_all _ (hsame.trans htext)]
    | false =>
      rcases hline with rfl | ⟨hindent, -⟩
      · have hwhole := margin_append_dropMargin hl htext
        rw [clearBlankLine_of_not_all (hsame.trans htext), h.margin_eq hp hl htext]
        conv_lhs => rw [← hwhole, ← List.append_assoc, dropMargin_append]
      · rw [htext] at hindent
        cases hindent
  exact map_eq_map_of_forall₂ hlines

/-- Dropping blank lines from the start of moved lines leaves moved lines. -/
theorem Moved.dropWhile (hp : p.all isIndent = true) (h : Moved p ls ls') :
    Moved p (ls.dropWhile (·.all isBlank)) (ls'.dropWhile (·.all isBlank)) := by
  induction h with
  | nil => exact .nil
  | @cons l l' ls ls' hline hrest ih =>
    have hsame := hline.all_isBlank_eq hp
    cases hl : l.all isBlank with
    | true =>
      simp only [List.dropWhile_cons, hsame, hl, if_true]
      exact ih
    | false =>
      simp only [List.dropWhile_cons, hsame, hl, Bool.false_eq_true, if_false]
      exact .cons hline hrest

/-- Dropping the blank edges of moved lines leaves moved lines. -/
theorem Moved.trimBlankLines (hp : p.all isIndent = true) (h : Moved p ls ls') :
    Moved p (trimBlankLines ls) (trimBlankLines ls') := by
  unfold Text.trimBlankLines
  apply List.forall₂_reverse_iff.mpr
  apply Moved.dropWhile hp
  apply List.forall₂_reverse_iff.mpr
  exact h.dropWhile hp

/-! ## Texts that are moved -/

/-- The lines of a body at an indentation. -/
def bodyBlock (indent : List Char) (ls : List (List Char)) : List (List Char) :=
  (dedentLines (trimBlankLines ls)).map (placedLine indent)

/-- The lines of a body are those of its block. -/
theorem bodyLines_eq (indent body : String) :
    bodyLines indent body =
      (bodyBlock indent.toList (splitLines body.toList)).map String.ofList := by
  rw [bodyBlock, List.map_map]
  rfl

/-- Moved lines make the same block of a body. -/
theorem Moved.bodyBlock_eq (hp : p.all isIndent = true) (h : Moved p ls ls') (indent : List Char) :
    bodyBlock indent ls' = bodyBlock indent ls := by
  rw [bodyBlock, (h.trimBlankLines hp).dedentLines_eq hp]
  rfl

/-- A text with a margin in front of each of its lines. -/
def indented (margin text : String) : String := unlines ((lines text).map (margin ++ ·))

/-- The lines of an indented text are the indented lines. -/
theorem splitLines_indented {margin : String} (hmargin : '\n' ∉ margin.toList) (text : String) :
    splitLines (indented margin text).toList =
      (splitLines text.toList).map (margin.toList ++ ·) := by
  rw [indented, splitLines_unlines]
  · simp only [lines, List.map_map, Function.comp_def, String.toList_append, String.toList_ofList]
  · intro l hl
    obtain ⟨line, hline, rfl⟩ := List.mem_map.mp hl
    rw [String.toList_append, List.mem_append, not_or]
    exact ⟨hmargin, newline_not_mem_of_mem_lines hline⟩
  · exact mt List.map_eq_nil_iff.mp (lines_ne_nil text)

/-- Texts with moved lines are the same without their margins. -/
theorem Moved.dedent_eq {cs cs' : List Char} (hp : p.all isIndent = true)
    (h : Moved p (splitLines cs) (splitLines cs')) : dedent cs' = dedent cs := by
  rw [dedent, h.dedentLines_eq hp]
  rfl

/-- Texts with moved lines are the same as bodies and as documentation. -/
theorem Moved.read_alike {text text' : String} (hp : p.all isIndent = true)
    (h : Moved p (splitLines text.toList) (splitLines text'.toList)) :
    (∀ indent, bodyLines indent text' = bodyLines indent text) ∧
      Javadoc.normalize text' = Javadoc.normalize text := by
  constructor
  · intro indent
    rw [bodyLines_eq, bodyLines_eq, h.bodyBlock_eq hp]
  · rw [Javadoc.normalize, Javadoc.normalize, Javadoc.normalChars, Javadoc.normalChars,
      h.dedent_eq hp]

/-- The indentation of a whole text in the source is irrelevant: a text with a margin in front of
each of its lines has the same body, at every indentation, and the same normal form.  Lines of
spaces and tabs alone, such as the empty one behind a last newline, may also be left without the
margin. -/
theorem indented_read_alike (margin text : String)
    (hmargin : ∀ c ∈ margin.toList, isIndent c = true) :
    (∀ indent, bodyLines indent (indented margin text) = bodyLines indent text) ∧
      Javadoc.normalize (indented margin text) = Javadoc.normalize text ∧
      ∀ text', Moved margin.toList (splitLines text.toList) (splitLines text'.toList) →
        (∀ indent, bodyLines indent text' = bodyLines indent text) ∧
          Javadoc.normalize text' = Javadoc.normalize text := by
  have hall : margin.toList.all isIndent = true := List.all_eq_true.mpr hmargin
  have hmoved : Moved margin.toList (splitLines text.toList)
      (splitLines (indented margin text).toList) := by
    rw [splitLines_indented (newline_not_mem_of_isIndent hmargin)]
    exact moved_map_append _ _
  obtain ⟨hbody, hnormal⟩ := hmoved.read_alike hall
  exact ⟨hbody, hnormal, fun text' h => h.read_alike hall⟩

/-- A text that is moved by a tab and a space, with the empty line in it and the one behind its last
newline or without them. -/
theorem indented_read_alike_list :
    let text := "Steps:\n\n  1. go\n \u00a0\n"
    let moved := "\t Steps:\n\n\t   1. go\n\t  \u00a0\n"
    (∀ c ∈ "\t ".toList, isIndent c = true) ∧
      indented "\t " text = "\t Steps:\n\t \n\t   1. go\n\t  \u00a0\n\t " ∧
      bodyLines "    " (indented "\t " text) = ["    Steps:", "", "      1. go"] ∧
      Javadoc.normalize (indented "\t " text) = "Steps:\n\n  1. go" ∧
      bodyLines "    " moved = ["    Steps:", "", "      1. go"] ∧
      Javadoc.normalize moved = "Steps:\n\n  1. go" := by
  intro text moved
  have hmargin : ∀ c ∈ "\t ".toList, isIndent c = true := List.all_eq_true.mp (by decide)
  have hbody : bodyLines "    " text = ["    Steps:", "", "      1. go"] := by decide
  have hnormal : Javadoc.normalize text = "Steps:\n\n  1. go" := by decide
  have hmoved : Moved "\t ".toList (splitLines text.toList) (splitLines moved.toList) := by
    have htext : splitLines text.toList = ["Steps:".toList, [], "  1. go".toList,
        " \u00a0".toList, []] := by decide
    have htext' : splitLines moved.toList = ["\t Steps:".toList, [], "\t   1. go".toList,
        "\t  \u00a0".toList, []] := by decide
    rw [htext, htext']
    exact .cons (.inl rfl) (.cons (.inr ⟨rfl, rfl⟩) (.cons (.inl rfl) (.cons (.inl rfl)
      (.cons (.inr ⟨rfl, rfl⟩) .nil))))
  obtain ⟨hall, hallNormal, hsome⟩ := indented_read_alike "\t " text hmargin
  obtain ⟨hsomeBody, hsomeNormal⟩ := hsome moved hmoved
  exact ⟨hmargin, by decide, (hall "    ").trans hbody, hallNormal.trans hnormal,
    (hsomeBody "    ").trans hbody, hsomeNormal.trans hnormal⟩

end Text

end JavaScribe
