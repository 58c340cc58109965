import JavaScribe.Proofs.CommentFrames
import JavaScribe.Template.Value

/-!
# Block comments

A text is put into a block comment just once: it becomes one line of the comment per line, and the
comment is one when it is met again.  What starts with the opening of a comment, white space aside,
is taken for a comment and only loses the newlines around it.  These are also trimmed off first,
which does not change how a text starts (`startsComment_trim_iff`).

A line behind its star can be read off the comment (`unstarred?_starred`), so nothing of a text is
lost in a comment but the newlines around it and the white space at the ends of its lines.
-/

set_option autoImplicit false

namespace JavaScribe

namespace Text

/-! ## Trimming twice -/

variable {p q : Char → Bool}

/-- Trimming a text twice is trimming it once. -/
theorem trim_trim (p : Char → Bool) (cs : List Char) : trim p (trim p cs) = trim p cs :=
  (isTrimmed_rdropWhile_dropWhile p cs).rdropWhile_dropWhile

/-- Trimming more from the start makes up for having trimmed less. -/
theorem trimStart_trimStart (hpq : ∀ c, p c = true → q c = true) (cs : List Char) :
    trimStart q (trimStart p cs) = trimStart q cs := by
  induction cs with
  | nil => rfl
  | cons c cs ih =>
    by_cases hc : p c = true
    · rw [trimStart, trimStart, trimStart, List.dropWhile_cons_of_pos hc,
        List.dropWhile_cons_of_pos (hpq c hc)]
      exact ih
    · rw [trimStart, trimStart, trimStart, List.dropWhile_cons_of_neg hc]

/-- The ends of a text can be trimmed in any order if no more is trimmed off the end of it. -/
theorem trimStart_trimEnd (hpq : ∀ c, p c = true → q c = true) (cs : List Char) :
    trimStart q (trimEnd p cs) = trimEnd p (trimStart q cs) := by
  simp only [trimStart, trimEnd_eq_rdropWhile]
  -- the last character is trimmed off at the end, or nothing is
  induction cs using List.reverseRecOn with
  | nil => rfl
  | append_singleton cs c ih =>
    by_cases hc : p c = true
    · rw [List.rdropWhile_concat_pos p _ _ hc, ih, List.dropWhile_append,
        List.dropWhile_cons_of_pos (hpq c hc), List.dropWhile_nil]
      split
      · next hempty => rw [List.isEmpty_iff.mp hempty]
      · rw [List.rdropWhile_concat_pos p _ _ hc]
    · have hlast : ∀ d ∈ ((cs ++ [c]).dropWhile q).getLast?, p d = false := by
        intro d hd
        obtain ⟨front, hfront⟩ := List.dropWhile_suffix (l := cs ++ [c]) q
        have hend : (cs ++ [c]).getLast? = some d := by
          rw [← hfront, List.getLast?_append, hd]
          rfl
        rw [List.getLast?_concat, Option.some.injEq] at hend
        rw [← hend]
        exact Bool.eq_false_iff.mpr hc
      rw [List.rdropWhile_concat_neg p _ _ hc, rdropWhile_eq_self_of_getLast? hlast]

/-- Trimming leaves a text the start that it has if what is trimmed off does not end it. -/
theorem prefix_trimEnd_iff {start : List Char} (hstart : ∀ c ∈ start.getLast?, p c = false)
    (cs : List Char) : start <+: trimEnd p cs ↔ start <+: cs := by
  refine ⟨fun h => h.trans (trimEnd_prefix_self p cs), ?_⟩
  rintro ⟨more, rfl⟩
  cases hmore : more.all p with
  | true =>
    have hnone : trimEnd p (start ++ more) = start :=
      (trimEnd_append_of_all start hmore).trans (rdropWhile_eq_self_of_getLast? hstart)
    simp only [hnone, List.prefix_rfl]
  | false =>
    rw [trimEnd_append_of_not_all start hmore]
    exact List.prefix_append start _

end Text

open Text

/-! ## Texts that are comments -/

/-- Whether a text starts as a block comment, behind the white space in front of it. -/
def StartsComment (cs : List Char) : Prop := ['/', '*'] <+: trimStart isBlank cs

/-- Whether a text starts a comment is decided by comparing two characters. -/
instance (cs : List Char) : Decidable (StartsComment cs) :=
  inferInstanceAs (Decidable (['/', '*'] <+: trimStart isBlank cs))

/-- Newlines around a text do not matter to whether it starts a comment. -/
theorem startsComment_trim_iff (cs : List Char) :
    StartsComment (trim isNewline cs) ↔ StartsComment cs := by
  have hblank : ∀ c, isNewline c = true → isBlank c = true := fun _ => isBlank_of_isNewline
  rw [StartsComment, StartsComment, trim, trimStart_trimEnd hblank, trimStart_trimStart hblank]
  apply prefix_trimEnd_iff
  intro c hc
  cases hc
  rfl

/-- A text that starts a comment is only trimmed. -/
theorem blockComment_of_startsComment {s : String} (h : StartsComment s.toList) :
    blockComment s = String.ofList (trim isNewline s.toList) :=
  if_pos (List.isPrefixOf_iff_prefix.mpr ((startsComment_trim_iff s.toList).mpr h))

/-! ## Texts that are wrapped -/

/-- A line of a text as a line of a comment. -/
def starred (l : List Char) : String := String.ofList (trimEnd isBlank (' ' :: '*' :: ' ' :: l))

/-- What a line of a comment says behind its star, if it has one. -/
def unstarred? (line : String) : Option String :=
  match line.toList with
  | [' ', '*'] => some ""
  | ' ' :: '*' :: ' ' :: l => some (String.ofList l)
  | _ => none

/-- A line of white space leaves the star alone, and any other one a star, a space and the line. -/
theorem unstarred?_starred (l : List Char) :
    unstarred? (starred l) = some (String.ofList (trimEnd isBlank l)) := by
  cases hl : l.all isBlank with
  | true =>
    have hspace : (' ' :: l).all isBlank = true := by rw [List.all_cons, hl]; rfl
    have hstar : starred l = " *" :=
      congrArg String.ofList (trimEnd_append_of_all [' ', '*'] hspace)
    rw [hstar, trimEnd_eq_nil_iff.mpr hl]
    rfl
  | false =>
    have hstar : starred l = String.ofList (' ' :: '*' :: ' ' :: trimEnd isBlank l) :=
      congrArg String.ofList (trimEnd_append_of_not_all [' ', '*', ' '] hl)
    rw [hstar, unstarred?, String.toList_ofList]
    rfl

/-- A starred line is one line. -/
theorem newline_not_mem_starred {l : List Char} (h : '\n' ∉ l) : '\n' ∉ (starred l).toList := by
  intro hmem
  rw [starred, String.toList_ofList] at hmem
  have hline : '\n' ∈ [' ', '*', ' '] ++ l := (trimEnd_prefix_self isBlank _).mem hmem
  rcases List.mem_append.mp hline with hstar | hline
  · exact absurd hstar (by decide)
  · exact h hline

/-- A text that starts no comment gets a star in front of every line. -/
theorem blockComment_of_not_startsComment {s : String} (h : ¬ StartsComment s.toList) :
    blockComment s =
      unlines ("/*" :: (splitLines (trim isNewline s.toList)).map starred ++ [" */"]) :=
  if_neg fun hstarts =>
    h ((startsComment_trim_iff s.toList).mp (List.isPrefixOf_iff_prefix.mp hstarts))

/-- The lines of a comment are those of the text with stars in front, in a frame. -/
theorem lines_blockComment {s : String} (h : ¬ StartsComment s.toList) :
    lines (blockComment s) =
      "/*" :: (splitLines (trim isNewline s.toList)).map starred ++ [" */"] := by
  rw [blockComment_of_not_startsComment h]
  apply lines_unlines _ (by simp)
  intro line hline
  rw [List.cons_append, List.mem_cons, List.mem_append, List.mem_singleton, List.mem_map] at hline
  rcases hline with rfl | ⟨l, hl, rfl⟩ | rfl
  · decide
  · exact newline_not_mem_starred (not_mem_of_mem_splitLines hl)
  · decide

/-- A comment around a text starts as a comment, and no newline stands around it. -/
theorem toList_blockComment {s : String} (h : ¬ StartsComment s.toList) :
    ∃ cs, (blockComment s).toList = ['/', '*', '\n'] ++ cs ++ ['\n', ' ', '*', '/'] := by
  rw [blockComment_of_not_startsComment h]
  have hne : (splitLines (trim isNewline s.toList)).map starred ≠ [] := by
    simpa using splitLines_ne_nil _
  rw [List.cons_append, unlines_cons (by simp), unlines_concat hne]
  generalize unlines ((splitLines (trim isNewline s.toList)).map starred) = body
  refine ⟨body.toList, ?_⟩
  rw [String.toList_append, String.toList_append, String.toList_append, String.toList_append,
    List.append_assoc body.toList, List.append_assoc ['/', '*', '\n']]
  rfl

/-- A comment is no more made a comment again. -/
theorem blockComment_blockComment (s : String) :
    blockComment (blockComment s) = blockComment s := by
  by_cases h : StartsComment s.toList
  · have hstarts : StartsComment (blockComment s).toList := by
      rwa [blockComment_of_startsComment h, String.toList_ofList, startsComment_trim_iff]
    rw [blockComment_of_startsComment hstarts, blockComment_of_startsComment h,
      String.toList_ofList, trim_trim]
  · obtain ⟨cs, hchars⟩ := toList_blockComment h
    have hstarts : StartsComment (blockComment s).toList := by
      rw [hchars]
      exact List.prefix_append _ _
    have htrimmed : IsTrimmed isNewline (blockComment s).toList := by
      rw [hchars]
      constructor
      · intro c hc
        cases hc
        rfl
      · intro c hc
        rw [List.getLast?_append] at hc
        cases hc
        rfl
    rw [blockComment_of_startsComment hstarts]
    exact (congrArg String.ofList htrimmed.rdropWhile_dropWhile).trans String.ofList_toList

/-- A block comment that is made a block comment stays as it is.  A text that starts as one, white
space aside, only loses the newlines around it.  Any other text stands between a first and a last
line: behind the stars of the lines between them are the lines that the text has without the
newlines around it, each without the white space at its end. -/
theorem blockComment_read_back (s : String) :
    blockComment (blockComment s) = blockComment s ∧
      (StartsComment s.toList → blockComment s = String.ofList (trim isNewline s.toList)) ∧
      (¬ StartsComment s.toList → ∃ body, lines (blockComment s) = "/*" :: body ++ [" */"] ∧
        body.map unstarred? =
          (lines (String.ofList (trim isNewline s.toList))).map fun l => some (tidy l)) := by
  refine ⟨blockComment_blockComment s, blockComment_of_startsComment,
    fun h => ⟨_, lines_blockComment h, ?_⟩⟩
  rw [lines, String.toList_ofList, List.map_map, List.map_map]
  apply List.map_congr_left
  intro l _
  rw [Function.comp, Function.comp, unstarred?_starred, tidy, String.toList_ofList]

/-- A notice with a line of white space, and newlines around it. -/
theorem blockComment_read_back_notice :
    let s := "\n  Notice\n \t\nof use \n"
    ¬ StartsComment s.toList ∧ blockComment s = "/*\n *   Notice\n *\n * of use\n */" ∧
      blockComment (blockComment s) = blockComment s ∧
      ∃ body, lines (blockComment s) = "/*" :: body ++ [" */"] ∧
        body.map unstarred? = [some "  Notice", some "", some "of use"] := by
  intro s
  have hplain : ¬ StartsComment s.toList := by decide +kernel
  obtain ⟨hagain, -, hwrapped⟩ := blockComment_read_back s
  obtain ⟨body, hlines, hbody⟩ := hwrapped hplain
  have hnotice : (lines (String.ofList (trim isNewline s.toList))).map (fun l => some (tidy l)) =
      [some "  Notice", some "", some "of use"] := by decide +kernel
  exact ⟨hplain, by decide +kernel, hagain, body, hlines, hbody.trans hnotice⟩

end JavaScribe
