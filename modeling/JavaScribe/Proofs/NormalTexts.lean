import JavaScribe.Proofs.Margins
import JavaScribe.Proofs.Words

/-!
# The normal form of a text

Three kinds of white space are taken away from a documentation text: spaces and tabs in front of its
lines, newlines around it, and all white space at the ends of its lines and of the whole.  What is
left has white space at neither end and at the end of no line (`Javadoc.IsNormal`), and it has the
words of the text, so that it is empty only for a text of white space.

A text in normal form is its own normal form (`Javadoc.IsNormal.normalChars_eq`): its first line
starts without white space, so that there is no margin to be removed, whatever the first line had in
front of it before.
-/

set_option autoImplicit false

namespace JavaScribe

namespace Text

/-! ## Words without the margin -/

/-- Dropping the margin of a line does not change its words. -/
theorem words_dropMargin {l : List Char} {ls : List (List Char)} (hl : l ∈ ls) :
    words (dropMargin (margin ls) (clearBlankLine l)) = words l := by
  cases htext : l.all isIndent with
  | true =>
    rw [dropMargin_clearBlankLine_of_all _ htext, words_nil,
      words_of_all (all_isBlank_of_all_isIndent htext)]
  | false =>
    have hmargin : (margin ls).all isBlank = true :=
      all_isBlank_of_all_isIndent (List.all_eq_true.mpr fun c hc => isIndent_of_mem_margin hc)
    conv_rhs => rw [← margin_append_dropMargin hl htext, words_append_of_all hmargin]

/-- Dropping the margin of a text does not change its words. -/
theorem words_dedent (cs : List Char) : words (dedent cs) = words cs := by
  conv_rhs => rw [← joinLines_splitLines cs, words_joinLines]
  rw [dedent, words_joinLines, dedentLines, List.flatMap_map]
  exact List.flatMap_congr fun l hl => words_dropMargin hl

/-! ## White space at the ends of joined lines -/

/-- Joined lines lose blank lines at their start and the start of one line. -/
theorem exists_trimStart_joinLines (ls : List (List Char)) :
    ∃ ks, trimStart isBlank (joinLines ls) = joinLines ks ∧ ∀ k ∈ ks, ∃ l ∈ ls, k <:+ l := by
  induction ls with
  | nil => exact ⟨[], rfl, fun k hk => absurd hk List.not_mem_nil⟩
  | cons l ls ih =>
    by_cases hls : ls = []
    · refine ⟨[trimStart isBlank l], by rw [hls, joinLines_singleton, joinLines_singleton],
        fun k hk => ?_⟩
      rw [List.mem_singleton.mp hk]
      exact ⟨l, List.mem_cons_self, List.dropWhile_suffix isBlank⟩
    · rw [joinLines_cons hls, trimStart, List.dropWhile_append]
      split
      · obtain ⟨ks, hks, hsuffix⟩ := ih
        refine ⟨ks, hks, fun k hk => ?_⟩
        obtain ⟨m, hm, hkm⟩ := hsuffix k hk
        exact ⟨m, List.mem_cons_of_mem l hm, hkm⟩
      · refine ⟨trimStart isBlank l :: ls, (joinLines_cons hls _).symm, fun k hk => ?_⟩
        obtain rfl | hk := List.mem_cons.mp hk
        · exact ⟨l, List.mem_cons_self, List.dropWhile_suffix isBlank⟩
        · exact ⟨k, List.mem_cons_of_mem l hk, List.suffix_rfl⟩

/-- Joined lines without white space at their ends lose nothing but empty lines at the end. -/
theorem exists_trimEnd_joinLines {ls : List (List Char)} (h : ∀ l ∈ ls, IsTidy l) :
    ∃ ks, trimEnd isBlank (joinLines ls) = joinLines ks ∧ ∀ k ∈ ks, k ∈ ls := by
  induction ls using List.reverseRecOn with
  | nil => exact ⟨[], rfl, fun k hk => hk⟩
  | append_singleton ls l ih =>
    have hl := h l (List.mem_append_right ls List.mem_cons_self)
    by_cases hls : ls = []
    · refine ⟨[l], ?_, fun k hk => by rw [hls]; exact hk⟩
      rw [hls, List.nil_append, joinLines_singleton, hl.trimEnd_eq]
    · cases hblank : l.all isBlank with
      | true =>
        obtain ⟨ks, hks, hsub⟩ := ih fun k hk => h k (List.mem_append_left _ hk)
        refine ⟨ks, ?_, fun k hk => List.mem_append_left _ (hsub k hk)⟩
        rw [joinLines_concat hls, trimEnd_append_of_all _ (by rw [List.all_cons, hblank]; rfl), hks]
      | false =>
        refine ⟨ls ++ [l], ?_, fun k hk => hk⟩
        have hrest : ('\n' :: l).all isBlank = false := by
          rw [List.all_cons, hblank, Bool.and_false]
        have hkept : trimEnd isBlank ('\n' :: l) = '\n' :: l := by
          have happend := trimEnd_append_of_not_all ['\n'] hblank
          rwa [hl.trimEnd_eq] at happend
        rw [joinLines_concat hls, trimEnd_append_of_not_all _ hrest, hkept]

end Text

namespace Javadoc

open Text

variable {cs : List Char}

/-- A text with white space at neither end and at the end of no line. -/
structure IsNormal (cs : List Char) : Prop where
  trimmed : IsTrimmed isBlank cs
  tidy : ∀ l ∈ splitLines cs, IsTidy l

/-! ## Texts become normal -/

/-- A normal form consists of tidy lines. -/
theorem exists_normalChars_eq_joinLines (cs : List Char) :
    ∃ ls, normalChars cs = joinLines ls ∧ ∀ l ∈ ls, IsTidy l ∧ '\n' ∉ l := by
  obtain ⟨starts, hstarts, hsuffix⟩ := exists_trimStart_joinLines
    ((splitLines (trim isNewline (dedent cs))).map (trimEnd isBlank))
  have htidy : ∀ l ∈ starts, IsTidy l ∧ '\n' ∉ l := by
    intro l hl
    obtain ⟨k, hk, hsub⟩ := hsuffix l hl
    obtain ⟨line, hline, rfl⟩ := List.mem_map.mp hk
    refine ⟨(isTidy_trimEnd line).of_suffix hsub, fun hmem => ?_⟩
    exact not_mem_of_mem_splitLines hline ((trimEnd_prefix_self isBlank line).mem (hsub.mem hmem))
  obtain ⟨ends, hends, hsub⟩ := exists_trimEnd_joinLines fun l hl => (htidy l hl).1
  refine ⟨ends, ?_, fun l hl => htidy l (hsub l hl)⟩
  rw [normalChars, trim, hstarts, hends]

/-- The normal form of every text is normal. -/
theorem isNormal_normalChars (cs : List Char) : IsNormal (normalChars cs) where
  trimmed := isTrimmed_rdropWhile_dropWhile isBlank _
  tidy := by
    obtain ⟨ls, hnormal, hls⟩ := exists_normalChars_eq_joinLines cs
    intro l hl
    by_cases hne : ls = []
    · rw [hnormal, hne] at hl
      rw [List.mem_singleton.mp hl]
      exact fun c hc => absurd hc (Option.not_mem_none c)
    · rw [hnormal, splitLines_joinLines (fun k hk => (hls k hk).2) hne] at hl
      exact (hls l hl).1

/-- The normal form has the words of the text. -/
theorem words_normalChars (cs : List Char) : words (normalChars cs) = words cs := by
  calc words (normalChars cs)
      = ((splitLines (trim isNewline (dedent cs))).map (trimEnd isBlank)).flatMap words := by
        rw [normalChars, words_trim (fun _ hc => hc), words_joinLines]
    _ = (splitLines (trim isNewline (dedent cs))).flatMap words := by
        rw [List.flatMap_map]
        exact List.flatMap_congr fun l _ => words_trimEnd (fun _ hc => hc) l
    _ = words cs := by
        rw [← words_joinLines, joinLines_splitLines, words_trim (fun _ => isBlank_of_isNewline),
          words_dedent]

/-! ## Normal texts stay as they are -/

/-- The first line of a normal text has nothing in front of its text, so there is no margin. -/
theorem IsNormal.margin_eq (h : IsNormal cs) : margin (splitLines cs) = [] := by
  cases cs with
  | nil => rfl
  | cons c cs =>
    have hc : isBlank c = false := h.trimmed.first c rfl
    have hnewline : c ≠ '\n' := by
      rintro rfl
      cases hc
    have hindent : isIndent c = false := by
      rw [Bool.eq_false_iff] at hc ⊢
      exact mt isBlank_of_isIndent hc
    obtain ⟨first, more, -, hsplit⟩ := splitLines_cons hnewline cs
    have htext : (c :: first).all isIndent = false := by rw [List.all_cons, hindent, Bool.false_and]
    have hmem : (c :: first) ∈ splitLines (c :: cs) := by rw [hsplit]; exact List.mem_cons_self
    have hmargin := margin_prefix_takeWhile hmem htext
    rwa [List.takeWhile_cons_of_neg (by rw [hindent]; exact Bool.false_ne_true),
      List.prefix_nil] at hmargin

/-- A normal text has no margin to drop. -/
theorem IsNormal.dedent_eq (h : IsNormal cs) : dedent cs = cs := by
  have hlines : dedentLines (splitLines cs) = splitLines cs := by
    rw [dedentLines, h.margin_eq]
    conv_rhs => rw [← List.map_id (splitLines cs)]
    apply List.map_congr_left
    intro l hl
    have hclear : clearBlankLine l = l := by
      cases hindent : l.all isIndent with
      | false => exact clearBlankLine_of_not_all hindent
      | true =>
        have htrimmed := trimEnd_eq_nil_iff.mpr (all_isBlank_of_all_isIndent hindent)
        rw [(h.tidy l hl).trimEnd_eq] at htrimmed
        rw [htrimmed]
        rfl
    rw [hclear]
    exact dropMargin_append [] l
  rw [dedent, hlines, joinLines_splitLines]

/-- A normal text is its own normal form. -/
theorem IsNormal.normalChars_eq (h : IsNormal cs) : normalChars cs = cs := by
  have hnewlines : trim isNewline cs = cs :=
    (h.trimmed.imp fun _ => isBlank_of_isNewline).rdropWhile_dropWhile
  have hlines : (splitLines cs).map (trimEnd isBlank) = splitLines cs := by
    conv_rhs => rw [← List.map_id (splitLines cs)]
    exact List.map_congr_left fun l hl => (h.tidy l hl).trimEnd_eq
  have hends : trim isBlank cs = cs := h.trimmed.rdropWhile_dropWhile
  rw [normalChars, h.dedent_eq, hnewlines, hlines, joinLines_splitLines, hends]

/-- A normal text of white space is empty, for it has no first character. -/
theorem IsNormal.eq_nil_iff (h : IsNormal cs) : cs = [] ↔ words cs = [] := by
  constructor
  · rintro rfl
    exact words_nil
  · intro hwords
    cases cs with
    | nil => rfl
    | cons c cs =>
      have hblank := List.all_eq_true.mp (words_eq_nil_iff.mp hwords) c List.mem_cons_self
      rw [h.trimmed.first c rfl] at hblank
      cases hblank

/-- The normal form of a text is its own normal form.  It has white space at neither end and at the
end of no line, it has the words of the text, and it is empty exactly if the text is made of white
space. -/
theorem normalize_isNormal (text : String) :
    normalize (normalize text) = normalize text ∧
      (∀ c ∈ (normalize text).toList.head?, isBlank c = false) ∧
      (∀ c ∈ (normalize text).toList.getLast?, isBlank c = false) ∧
      (∀ line ∈ lines (normalize text), ∀ c ∈ line.toList.getLast?, isBlank c = false) ∧
      words (normalize text).toList = words text.toList ∧
      (normalize text = "" ↔ ∀ c ∈ text.toList, isBlank c = true) := by
  have hchars : (normalize text).toList = normalChars text.toList := String.toList_ofList
  have hnormal : IsNormal (normalize text).toList := by
    rw [hchars]
    exact isNormal_normalChars text.toList
  have hwords : words (normalize text).toList = words text.toList := by
    rw [hchars, words_normalChars]
  refine ⟨?again, hnormal.trimmed.first, hnormal.trimmed.last, ?lines, hwords, ?empty⟩
  case again =>
    calc normalize (normalize text)
        = String.ofList (normalChars (normalize text).toList) := rfl
      _ = String.ofList (normalize text).toList := by rw [hnormal.normalChars_eq]
      _ = normalize text := String.ofList_toList
  case lines =>
    intro line hline
    obtain ⟨l, hl, rfl⟩ := List.mem_map.mp hline
    rw [String.toList_ofList]
    exact hnormal.tidy l hl
  case empty =>
    rw [← List.all_eq_true, ← words_eq_nil_iff, ← hwords, ← hnormal.eq_nil_iff,
      String.toList_eq_nil_iff]

end Javadoc

end JavaScribe
