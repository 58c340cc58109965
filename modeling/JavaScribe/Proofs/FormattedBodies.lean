import JavaScribe.Proofs.Margins

/-!
# Bodies that are formatted again

Two rules say which lines of a body are blank.  The lines at its ends, and the lines that are
emptied, are those of white space; but the margin is taken from all lines that are not made of
spaces and tabs alone, and so from a line that holds a carriage return and nothing else.  Such a
line has no indentation and keeps the margin of the others from being removed.

Formatting empties it.  So a formatted body is left as it is by formatting it again exactly if the
blank lines of the original had no say in its margin (`Text.bodyLines_again`); and formatting it
twice comes to the same as first taking the white space from the end of each line.
-/

set_option autoImplicit false

namespace JavaScribe

namespace Text

variable {indent l : List Char} {ls : List (List Char)}

/-! ## The lines of a body one by one -/

/-- A line of a block as it stands in the body, where the margin of the block has the given
length. -/
def shownLine (indent : List Char) (width : Nat) (l : List Char) : List Char :=
  if l.all isBlank then [] else indent ++ (trimEnd isBlank l).drop width

/-- A blank line of a body becomes empty. -/
theorem placedLine_of_all (indent : List Char) (h : l.all isBlank = true) :
    placedLine indent l = [] := if_pos h

/-- A line of a body that is not blank is indented and trimmed. -/
theorem placedLine_of_not_all (indent : List Char) (h : l.all isBlank = false) :
    placedLine indent l = indent ++ trimEnd isBlank l :=
  if_neg (by rw [h]; exact Bool.false_ne_true)

/-- A line is blank exactly if it is blank without the margin of its block. -/
theorem all_isBlank_dropMargin (hl : l ∈ ls) :
    (dropMargin (margin ls) (clearBlankLine l)).all isBlank = l.all isBlank := by
  cases htext : l.all isIndent with
  | true =>
    rw [dropMargin_clearBlankLine_of_all _ htext, all_isBlank_of_all_isIndent htext]
    rfl
  | false =>
    have hmargin : (margin ls).all isBlank = true :=
      all_isBlank_of_all_isIndent (List.all_eq_true.mpr fun c hc => isIndent_of_mem_margin hc)
    have hwhole := congrArg (List.all · isBlank) (margin_append_dropMargin hl htext)
    simpa only [List.all_append, hmargin, Bool.true_and] using hwhole

/-- The margin and the trimmed rest make up the trimmed line. -/
theorem margin_append_trimEnd (hl : l ∈ ls) (hblank : l.all isBlank = false) :
    margin ls ++ trimEnd isBlank (dropMargin (margin ls) (clearBlankLine l)) =
      trimEnd isBlank l := by
  have htext : l.all isIndent = false := by
    rw [Bool.eq_false_iff] at hblank ⊢
    exact mt all_isBlank_of_all_isIndent hblank
  have hrest := (all_isBlank_dropMargin hl).trans hblank
  rw [← trimEnd_append_of_not_all _ hrest, margin_append_dropMargin hl htext]

/-- A line of a body is shown without its margin. -/
theorem placedLine_dropMargin (indent : List Char) (hl : l ∈ ls) :
    placedLine indent (dropMargin (margin ls) (clearBlankLine l)) =
      shownLine indent (margin ls).length l := by
  have hsame := all_isBlank_dropMargin hl
  cases hblank : l.all isBlank with
  | true => rw [placedLine_of_all _ (hsame.trans hblank), shownLine, if_pos hblank]
  | false =>
    rw [placedLine_of_not_all _ (hsame.trans hblank), shownLine, hblank,
      if_neg Bool.false_ne_true, ← margin_append_trimEnd hl hblank, List.drop_left]

/-- Each line of a body is told by the line of the block and the length of the margin. -/
theorem bodyBlock_eq_map (indent : List Char) (ls : List (List Char)) :
    bodyBlock indent ls = (trimBlankLines ls).map
      (shownLine indent (margin (trimBlankLines ls)).length) := by
  rw [bodyBlock, dedentLines, List.map_map]
  exact List.map_congr_left fun l hl => placedLine_dropMargin indent hl

/-! ## Blocks without white space at their ends -/

/-- A block without its blank edges has no blank edges. -/
theorem isTrimmed_trimBlankLines (ls : List (List Char)) :
    IsTrimmed (fun l => l.all isBlank) (trimBlankLines ls) :=
  isTrimmed_rdropWhile_dropWhile _ ls

/-- Dropping the blank edges of a block twice is dropping them once. -/
theorem trimBlankLines_trimBlankLines (ls : List (List Char)) :
    trimBlankLines (trimBlankLines ls) = trimBlankLines ls :=
  (isTrimmed_trimBlankLines ls).rdropWhile_dropWhile

/-- Lines that are left of a block were in it. -/
theorem mem_of_mem_trimBlankLines (h : l ∈ trimBlankLines ls) : l ∈ ls :=
  (List.dropWhile_suffix _).mem ((List.rdropWhile_prefix _ _).mem h)

/-- Taking the white space from the ends of the lines does not change which of them are blank. -/
theorem trimBlankLines_map_trimEnd (ls : List (List Char)) :
    trimBlankLines (ls.map (trimEnd isBlank)) = (trimBlankLines ls).map (trimEnd isBlank) := by
  have hsame : (fun l : List Char => l.all isBlank) ∘ trimEnd isBlank = fun l => l.all isBlank :=
    funext fun l => all_trimEnd isBlank l
  rw [trimBlankLines, trimBlankLines, List.dropWhile_map, hsame, ← List.map_reverse,
    List.dropWhile_map, hsame, List.map_reverse]

/-- The blank edges of a block make no difference to the body. -/
theorem bodyBlock_trimBlankLines (indent : List Char) (ls : List (List Char)) :
    bodyBlock indent (trimBlankLines ls) = bodyBlock indent ls := by
  rw [bodyBlock, trimBlankLines_trimBlankLines]
  rfl

/-! ## Formatting a second time -/

/-- A body stands at its indentation as its block does without margin and without white space at
the ends of the lines. -/
theorem moved_bodyBlock (indent : List Char) (ls : List (List Char)) :
    Moved indent ((dedentLines (trimBlankLines ls)).map (trimEnd isBlank))
      (bodyBlock indent ls) := by
  rw [bodyBlock, Moved, List.forall₂_map_left_iff, List.forall₂_map_right_iff, List.forall₂_same]
  intro l _
  cases hl : l.all isBlank with
  | true =>
    rw [placedLine_of_all _ hl, trimEnd_eq_nil_iff.mpr hl]
    exact .inr ⟨rfl, rfl⟩
  | false => exact .inl (placedLine_of_not_all _ hl)

/-- A block without white space at the ends of its lines stands at its margin. -/
theorem moved_map_trimEnd (ls : List (List Char)) :
    Moved (margin ls) ((dedentLines ls).map (trimEnd isBlank)) (ls.map (trimEnd isBlank)) := by
  rw [dedentLines, List.map_map, Moved, List.forall₂_map_left_iff, List.forall₂_map_right_iff,
    List.forall₂_same]
  intro l hl
  have hsame := all_isBlank_dropMargin hl
  cases hblank : l.all isBlank with
  | true =>
    rw [Function.comp, trimEnd_eq_nil_iff.mpr hblank, trimEnd_eq_nil_iff.mpr (hsame.trans hblank)]
    exact .inr ⟨rfl, rfl⟩
  | false => exact .inl (margin_append_trimEnd hl hblank).symm

/-- Formatting a block a second time comes to the same as taking the white space from the ends of
its lines before formatting it. -/
theorem bodyBlock_bodyBlock (hindent : indent.all isIndent = true) (ls : List (List Char)) :
    bodyBlock indent (bodyBlock indent ls) = bodyBlock indent (ls.map (trimEnd isBlank)) := by
  have hmargin : (margin (trimBlankLines ls)).all isIndent = true :=
    List.all_eq_true.mpr fun c hc => isIndent_of_mem_margin hc
  calc bodyBlock indent (bodyBlock indent ls)
      = bodyBlock indent ((dedentLines (trimBlankLines ls)).map (trimEnd isBlank)) :=
        (moved_bodyBlock indent ls).bodyBlock_eq hindent indent
    _ = bodyBlock indent ((trimBlankLines ls).map (trimEnd isBlank)) :=
        ((moved_map_trimEnd (trimBlankLines ls)).bodyBlock_eq hmargin indent).symm
    _ = bodyBlock indent (ls.map (trimEnd isBlank)) := by
        rw [← trimBlankLines_map_trimEnd, bodyBlock_trimBlankLines]

/-! ## Margins that blank lines have no say in -/

/-- A trimmed line is made of indentation alone just if the line was blank. -/
theorem all_isIndent_trimEnd (l : List Char) :
    (trimEnd isBlank l).all isIndent = l.all isBlank := by
  cases hl : l.all isBlank with
  | true =>
    rw [trimEnd_eq_nil_iff.mpr hl]
    rfl
  | false =>
    rw [← all_trimEnd, Bool.eq_false_iff] at hl
    exact Bool.eq_false_iff.mpr (mt all_isBlank_of_all_isIndent hl)

/-- Trimming the end of a line that is not blank leaves its indentation alone. -/
theorem takeWhile_isIndent_trimEnd (hl : l.all isBlank = false) :
    (trimEnd isBlank l).takeWhile isIndent = l.takeWhile isIndent := by
  obtain ⟨rest, hrest⟩ := trimEnd_prefix_self isBlank l
  have htext := (all_isIndent_trimEnd l).trans hl
  have hshort : ((trimEnd isBlank l).takeWhile isIndent).length ≠ (trimEnd isBlank l).length := by
    intro hlength
    have hwhole := (List.takeWhile_prefix isIndent).eq_of_length hlength
    rw [← hwhole, List.all_takeWhile] at htext
    cases htext
  conv_rhs => rw [← hrest, List.takeWhile_append, if_neg hshort]

/-- A line that is not blank holds more than indentation. -/
theorem filter_text_filter_blank (ls : List (List Char)) :
    (ls.filter (!·.all isBlank)).filter (!·.all isIndent) = ls.filter (!·.all isBlank) := by
  rw [List.filter_eq_self]
  intro l hl
  have hblank := (List.mem_filter.mp hl).2
  rw [Bool.not_eq_true', Bool.eq_false_iff] at hblank ⊢
  exact mt all_isBlank_of_all_isIndent hblank

/-- Without white space at the ends of its lines a block has the margin of those of its lines that
are not blank. -/
theorem margin_map_trimEnd (ls : List (List Char)) :
    margin (ls.map (trimEnd isBlank)) = margin (ls.filter (!·.all isBlank)) := by
  have htrimmed : (ls.map (trimEnd isBlank)).filter (!·.all isIndent) =
      (ls.filter (!·.all isBlank)).map (trimEnd isBlank) := by
    rw [List.filter_map]
    simp only [Function.comp_def, all_isIndent_trimEnd]
  rw [margin, margin, htrimmed, filter_text_filter_blank, List.map_map]
  congr 1
  apply List.map_congr_left
  intro l hl
  have hblank : l.all isBlank = false := by simpa using (List.mem_filter.mp hl).2
  exact takeWhile_isIndent_trimEnd hblank

/-- White space at the end of a line makes no difference to how it is shown. -/
theorem shownLine_trimEnd (indent : List Char) (width : Nat) (l : List Char) :
    shownLine indent width (trimEnd isBlank l) = shownLine indent width l := by
  rw [shownLine, shownLine, all_trimEnd, trimEnd_trimEnd]

/-- A formatted block is left as it is exactly if the blank lines of the block have no say in its
margin.  The first line, which is not blank, tells how long the margin was. -/
theorem bodyBlock_map_trimEnd_eq_iff (indent : List Char) (ls : List (List Char)) :
    bodyBlock indent (ls.map (trimEnd isBlank)) = bodyBlock indent ls ↔
      margin (trimBlankLines ls) = margin ((trimBlankLines ls).filter (!·.all isBlank)) := by
  have hends := isTrimmed_trimBlankLines ls
  rw [bodyBlock_eq_map, bodyBlock_eq_map, trimBlankLines_map_trimEnd, List.map_map,
    ← margin_map_trimEnd]
  simp only [Function.comp_def, shownLine_trimEnd]
  generalize trimBlankLines ls = block at hends ⊢
  constructor
  · intro h
    cases block with
    | nil => rfl
    | cons l rest =>
      -- both margins are taken off the first line, so what is left of it tells how long they are
      have hblank : l.all isBlank = false := hends.first l rfl
      have hold : margin (l :: rest) <+: trimEnd isBlank l :=
        ⟨_, margin_append_trimEnd List.mem_cons_self hblank⟩
      have hnew : margin ((l :: rest).map (trimEnd isBlank)) <+: trimEnd isBlank l :=
        margin_prefix List.mem_cons_self ((all_isIndent_trimEnd l).trans hblank)
      have hshown : shownLine indent (margin ((l :: rest).map (trimEnd isBlank))).length l =
        shownLine indent (margin (l :: rest)).length l := (List.cons.inj h).1
      rw [shownLine, shownLine, hblank, if_neg Bool.false_ne_true, if_neg Bool.false_ne_true,
        List.append_cancel_left_eq] at hshown
      have hlength := congrArg List.length hshown
      rw [List.length_drop, List.length_drop] at hlength
      have hle := hold.length_le
      have hle' := hnew.length_le
      have hsame : (margin (l :: rest)).length =
          (margin ((l :: rest).map (trimEnd isBlank))).length := by omega
      exact (List.prefix_of_prefix_length_le hold hnew hsame.le).eq_of_length hsame
  · intro h
    rw [h]

/-- Blank lines of spaces and tabs have no say in the margin. -/
theorem margin_eq_margin_filter (h : ∀ l ∈ ls, l.all isBlank = true → l.all isIndent = true) :
    margin ls = margin (ls.filter (!·.all isBlank)) := by
  have hsame : ls.filter (!·.all isIndent) = ls.filter (!·.all isBlank) := by
    apply List.filter_congr
    intro l hl
    rw [Bool.not_inj_iff, Bool.eq_iff_iff]
    exact ⟨all_isBlank_of_all_isIndent, h l hl⟩
  rw [margin, margin, filter_text_filter_blank, hsame]

/-! ## Bodies that are formatted again -/

/-- The lines of a body are single lines. -/
theorem newline_not_mem_of_mem_bodyBlock (hindent : '\n' ∉ indent) {cs : List Char}
    (hl : l ∈ bodyBlock indent (splitLines cs)) : '\n' ∉ l := by
  rw [bodyBlock_eq_map] at hl
  obtain ⟨line, hline, rfl⟩ := List.mem_map.mp hl
  have hnewline : '\n' ∉ line := not_mem_of_mem_splitLines (mem_of_mem_trimBlankLines hline)
  intro hmem
  unfold shownLine at hmem
  split at hmem
  · exact List.not_mem_nil hmem
  · rcases List.mem_append.mp hmem with hmem | hmem
    · exact hindent hmem
    · exact hnewline ((trimEnd_prefix_self isBlank line).mem (List.mem_of_mem_drop hmem))

/-- A block is the same body as the text that it is joined to.  Without lines it is an empty text,
which has one line, and a blank one. -/
theorem bodyBlock_splitLines_unlines (indent : List Char) (h : ∀ l ∈ ls, '\n' ∉ l) :
    bodyBlock indent (splitLines (unlines (ls.map String.ofList)).toList) =
      bodyBlock indent ls := by
  cases ls with
  | nil => rfl
  | cons l ls =>
    rw [splitLines_unlines, List.map_map]
    · simp only [Function.comp_def, String.toList_ofList, List.map_id']
    · intro line hline
      obtain ⟨l, hl, rfl⟩ := List.mem_map.mp hline
      rw [String.toList_ofList]
      exact h l hl
    · exact List.cons_ne_nil _ _

/-- Formatting a body again comes to formatting the body with tidy lines. -/
theorem bodyLines_unlines_bodyLines {indent : String}
    (hindent : ∀ c ∈ indent.toList, isIndent c = true) (body : String) :
    bodyLines indent (unlines (bodyLines indent body)) =
      bodyLines indent (tidyLines "\n" body) := by
  rw [bodyLines_eq, bodyLines_eq, bodyLines_eq, bodyBlock_splitLines_unlines,
    bodyBlock_bodyBlock (List.all_eq_true.mpr hindent), splitLines_tidyLines]
  exact fun l hl => newline_not_mem_of_mem_bodyBlock (newline_not_mem_of_isIndent hindent) hl

/-- A formatted body is left as it is by formatting it again exactly if the margin of its block,
which the lines at its ends that are blank do not belong to, is that of the lines that are not
blank; so if no blank line holds anything but spaces and tabs.  In any case formatting it twice is
formatting the text whose lines have lost the white space at their ends, and a third time changes
nothing. -/
theorem bodyLines_again (indent body : String)
    (hindent : ∀ c ∈ indent.toList, isIndent c = true) :
    let once := bodyLines indent body
    let twice := bodyLines indent (unlines once)
    let block := trimBlankLines (splitLines body.toList)
    (twice = once ↔ margin block = margin (block.filter (!·.all isBlank))) ∧
    ((∀ l ∈ block, l.all isBlank = true → l.all isIndent = true) → twice = once) ∧
    twice = bodyLines indent (tidyLines "\n" body) ∧
    bodyLines indent (unlines twice) = twice := by
  intro once twice block
  have htwice : twice = bodyLines indent (tidyLines "\n" body) :=
    bodyLines_unlines_bodyLines hindent body
  have hiff : twice = once ↔ margin block = margin (block.filter (!·.all isBlank)) := by
    rw [htwice, bodyLines_eq, splitLines_tidyLines]
    unfold once
    rw [bodyLines_eq, List.map_inj_right fun _ _ => String.ofList_injective]
    exact bodyBlock_map_trimEnd_eq_iff indent.toList (splitLines body.toList)
  refine ⟨hiff, fun hblank => hiff.mpr (margin_eq_margin_filter hblank), htwice, ?_⟩
  rw [htwice, bodyLines_unlines_bodyLines hindent, tidyLines_tidyLines]

/-- A body whose blank line holds a space and a tab is formatted once and for all. -/
theorem bodyLines_again_block :
    let body := "\n    if (ready) \x7b\n        go();\n \t\n        stop();\n    \x7d\n"
    let once := bodyLines "\t" body
    (∀ c ∈ "\t".toList, isIndent c = true) ∧
      once = ["\tif (ready) \x7b", "\t    go();", "", "\t    stop();", "\t\x7d"] ∧
      bodyLines "\t" (unlines once) = once := by
  intro body once
  have hindent : ∀ c ∈ "\t".toList, isIndent c = true := List.all_eq_true.mp (by decide)
  have hblock : ∀ l ∈ trimBlankLines (splitLines body.toList),
      l.all isBlank = true → l.all isIndent = true := by decide
  exact ⟨hindent, by decide, (bodyLines_again "\t" body hindent).2.1 hblock⟩

/-- Lines that end with a carriage return as well: the blank one between them keeps the margin of
the others when the body is formatted, and is empty when it is formatted again. -/
theorem bodyLines_again_of_carriageReturn :
    let once := bodyLines "    " "  a();\r\n\r\n  b();\r\n"
    once = ["      a();", "", "      b();"] ∧
      bodyLines "    " (unlines once) = ["    a();", "", "    b();"] ∧
      bodyLines "    " (unlines once) ≠ once := by
  decide

end Text

end JavaScribe
