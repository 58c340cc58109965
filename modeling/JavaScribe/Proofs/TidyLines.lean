import JavaScribe.Text.Line
import Mathlib.Data.List.DropRight

/-!
# Lines without the white space at their ends

What it does to a text that white space is taken away at the end of it, or at the end of each of
its lines: nothing is lost but white space, the lines of the text stay the lines of it one by one,
and what has been trimmed once stays as it is.  The trimmed lines may be joined by another line
ending than a newline, which takes the place of the newlines and is gone when the lines are trimmed
again.
-/

set_option autoImplicit false

namespace JavaScribe

namespace Text

/-! ## Trimmed ends -/

section Ends

variable {α : Type} {p : α → Bool} {l : List α}

/-- A list whose ends have none of the elements that are trimmed away. -/
structure IsTrimmed (p : α → Bool) (l : List α) : Prop where
  first : ∀ a ∈ l.head?, p a = false
  last : ∀ a ∈ l.getLast?, p a = false

/-- What is left after dropping from the start does not start with what was to be dropped. -/
theorem not_of_mem_head?_dropWhile {a : α} (h : a ∈ (l.dropWhile p).head?) : p a = false := by
  have hfirst := List.head?_dropWhile_not p l
  rw [h] at hfirst
  exact hfirst

/-- What is left after dropping from the end does not end with what was to be dropped. -/
theorem not_of_mem_getLast?_rdropWhile {a : α} (h : a ∈ (l.rdropWhile p).getLast?) :
    p a = false := by
  rw [List.rdropWhile, List.getLast?_reverse] at h
  exact not_of_mem_head?_dropWhile h

/-- Nothing is dropped from the start of a list that starts with something else. -/
theorem dropWhile_eq_self_of_head? (h : ∀ a ∈ l.head?, p a = false) : l.dropWhile p = l := by
  cases l with
  | nil => rfl
  | cons a l =>
    have ha := h a rfl
    rw [List.dropWhile_cons_of_neg (by rw [ha]; exact Bool.false_ne_true)]

/-- Nothing is dropped from the end of a list that ends with something else. -/
theorem rdropWhile_eq_self_of_getLast? (h : ∀ a ∈ l.getLast?, p a = false) :
    l.rdropWhile p = l := by
  rw [List.rdropWhile, dropWhile_eq_self_of_head? (by rwa [List.head?_reverse]),
    List.reverse_reverse]

/-- A list that was trimmed at both ends is trimmed: taking elements from its end leaves it the
first one that it has. -/
theorem isTrimmed_rdropWhile_dropWhile (p : α → Bool) (l : List α) :
    IsTrimmed p ((l.dropWhile p).rdropWhile p) where
  first := by
    intro a ha
    obtain ⟨more, hmore⟩ := List.head?_eq_some_iff.mp ha
    obtain ⟨rest, hrest⟩ := List.rdropWhile_prefix p (l.dropWhile p)
    apply not_of_mem_head?_dropWhile (l := l)
    rw [← hrest, hmore]
    rfl
  last := fun _ => not_of_mem_getLast?_rdropWhile

/-- Nothing is dropped from a trimmed list. -/
theorem IsTrimmed.rdropWhile_dropWhile (h : IsTrimmed p l) :
    (l.dropWhile p).rdropWhile p = l := by
  rw [dropWhile_eq_self_of_head? h.first, rdropWhile_eq_self_of_getLast? h.last]

/-- A list that is trimmed of a class is trimmed of every smaller one. -/
theorem IsTrimmed.imp {q : α → Bool} (h : IsTrimmed q l) (hpq : ∀ a, p a = true → q a = true) :
    IsTrimmed p l where
  first := fun a ha => Bool.eq_false_iff.mpr
    (mt (hpq a) (Bool.eq_false_iff.mp (h.first a ha)))
  last := fun a ha => Bool.eq_false_iff.mpr
    (mt (hpq a) (Bool.eq_false_iff.mp (h.last a ha)))

end Ends

/-- Newlines are white space. -/
theorem isBlank_of_isNewline {c : Char} (h : isNewline c = true) : isBlank c = true := by
  rw [isNewline, beq_iff_eq] at h
  rw [h]
  rfl

/-- There are no newlines in what is made of indentation. -/
theorem newline_not_mem_of_isIndent {s : String} (h : ∀ c ∈ s.toList, isIndent c = true) :
    '\n' ∉ s.toList := fun hmem => absurd (h '\n' hmem) (by decide)

/-! ## Lines that are trimmed at their ends -/

/-- A line without the white space at its end. -/
def tidy (line : String) : String := String.ofList (trimEnd isBlank line.toList)

/-- Trimming the end of a text is dropping from the right. -/
theorem trimEnd_eq_rdropWhile (p : Char → Bool) (cs : List Char) :
    trimEnd p cs = cs.rdropWhile p := rfl

/-- Nothing is left at trimming the end just if there was nothing else. -/
theorem trimEnd_eq_nil_iff {p : Char → Bool} {cs : List Char} :
    trimEnd p cs = [] ↔ cs.all p = true := by
  rw [trimEnd_eq_rdropWhile, List.rdropWhile_eq_nil_iff, List.all_eq_true]

/-- Trimming the end leaves a start of the text. -/
theorem trimEnd_prefix_self (p : Char → Bool) (cs : List Char) : trimEnd p cs <+: cs :=
  List.rdropWhile_prefix p cs

/-- Trimming the end of a text twice is trimming it once. -/
theorem trimEnd_trimEnd (p : Char → Bool) (cs : List Char) :
    trimEnd p (trimEnd p cs) = trimEnd p cs :=
  List.rdropWhile_idempotent p cs

/-- Whether a text is made of the trimmed characters alone is not changed by trimming it. -/
theorem all_trimEnd (p : Char → Bool) (cs : List Char) : (trimEnd p cs).all p = cs.all p := by
  rw [Bool.eq_iff_iff, ← trimEnd_eq_nil_iff, ← trimEnd_eq_nil_iff, trimEnd_trimEnd]

/-- What is trimmed altogether makes no difference behind a text. -/
theorem trimEnd_append_of_all {p : Char → Bool} {ds : List Char} (cs : List Char)
    (h : ds.all p = true) : trimEnd p (cs ++ ds) = trimEnd p cs := by
  have hall : ds.reverse.dropWhile p = [] := by
    rw [List.dropWhile_eq_nil_iff]
    intro d hd
    exact List.all_eq_true.mp h d (List.mem_reverse.mp hd)
  rw [trimEnd, List.reverse_append, List.dropWhile_append, hall]
  rfl

/-- In front of what is not trimmed altogether, a text stays as it is. -/
theorem trimEnd_append_of_not_all {p : Char → Bool} {ds : List Char} (cs : List Char)
    (h : ds.all p = false) : trimEnd p (cs ++ ds) = cs ++ trimEnd p ds := by
  have hne : ds.reverse.dropWhile p ≠ [] := by
    intro hnil
    have htrim : trimEnd p ds = [] := by rw [trimEnd, hnil, List.reverse_nil]
    rw [trimEnd_eq_nil_iff, h] at htrim
    cases htrim
  rw [trimEnd, List.reverse_append, List.dropWhile_append, if_neg (by simpa using hne),
    List.reverse_append, List.reverse_reverse]
  rfl

/-- Whether a line has no white space at its end. -/
def IsTidy (l : List Char) : Prop := ∀ c ∈ l.getLast?, isBlank c = false

/-- A line whose end was trimmed is tidy. -/
theorem isTidy_trimEnd (l : List Char) : IsTidy (trimEnd isBlank l) := fun _ hc =>
  not_of_mem_getLast?_rdropWhile hc

/-- A tidy line stays as it is when its end is trimmed. -/
theorem IsTidy.trimEnd_eq {l : List Char} (h : IsTidy l) : trimEnd isBlank l = l :=
  rdropWhile_eq_self_of_getLast? h

/-- The end of a tidy line is tidy. -/
theorem IsTidy.of_suffix {k l : List Char} (h : IsTidy l) (hk : k <:+ l) : IsTidy k := by
  intro c hc
  obtain ⟨rest, rfl⟩ := hk
  apply h
  rw [List.getLast?_append, hc]
  rfl

/-- Tidying a line does not make it longer. -/
theorem length_tidy_le (line : String) : (tidy line).length ≤ line.length := by
  rw [tidy, String.length_ofList, ← String.length_toList, trimEnd_eq_rdropWhile]
  exact (List.rdropWhile_prefix isBlank line.toList).length_le

/-- A blank at the end of a line goes when it is tidied. -/
theorem tidy_append_space (line : String) : tidy (line ++ " ") = tidy line := by
  have hspace : isBlank ' ' = true := by decide
  have hconcat : (line ++ " ").toList = line.toList ++ [' '] := String.toList_append
  rw [tidy, hconcat, trimEnd_eq_rdropWhile, List.rdropWhile_concat_pos isBlank _ _ hspace]
  rfl

/-- A line that ends with a character other than white space is tidy. -/
theorem tidy_append_of_getLast {line more : String} {cs : List Char} {c : Char}
    (hmore : more.toList = cs ++ [c]) (hc : isBlank c = false) :
    tidy (line ++ more) = line ++ more := by
  have hconcat : (line ++ more).toList = (line.toList ++ cs) ++ [c] := by
    rw [String.toList_append, hmore, List.append_assoc]
  rw [tidy, hconcat, trimEnd_eq_rdropWhile, List.rdropWhile_concat_neg isBlank _ _ (by simp [hc]),
    ← hconcat, String.ofList_toList]

/-- Tidying a line brings no newline into it. -/
theorem not_mem_tidy {line : String} (h : '\n' ∉ line.toList) : '\n' ∉ (tidy line).toList := by
  intro hmem
  rw [tidy, String.toList_ofList, trimEnd_eq_rdropWhile] at hmem
  exact h ((List.rdropWhile_prefix isBlank line.toList).mem hmem)

/-- The lines of two texts with a newline between them are the lines of both. -/
theorem splitLines_append_newline (cs ds : List Char) :
    splitLines (cs ++ '\n' :: ds) = splitLines cs ++ splitLines ds := by
  simp only [splitLines, List.splitOn]
  exact List.splitOnP_append_cons cs ds (by simp)

/-- The lines of two texts with a newline between them are the lines of both. -/
theorem lines_append_newline (s t : String) : lines (s ++ "\n" ++ t) = lines s ++ lines t := by
  have hchars : (s ++ "\n" ++ t).toList = s.toList ++ '\n' :: t.toList := by
    rw [String.toList_append, String.toList_append, List.append_assoc]
    rfl
  rw [lines, hchars, splitLines_append_newline, List.map_append]
  rfl

/-- Every text has at least one line. -/
theorem lines_ne_nil (s : String) : lines s ≠ [] := by
  rw [lines, ne_eq, List.map_eq_nil_iff]
  exact List.splitOnP_ne_nil _ _

/-- No part of a divided text holds a separator. -/
theorem not_of_mem_splitOnP {p : Char → Bool} {cs l : List Char} (h : l ∈ cs.splitOnP p) :
    ∀ c ∈ l, p c = false := by
  induction cs generalizing l with
  | nil =>
    rw [List.splitOnP_nil, List.mem_singleton] at h
    rw [h]
    exact fun c hc => absurd hc List.not_mem_nil
  | cons d cs ih =>
    rw [List.splitOnP_cons_eq_if_modifyHead] at h
    by_cases hd : p d = true
    · rw [if_pos hd, List.mem_cons] at h
      obtain rfl | h := h
      · exact fun c hc => absurd hc List.not_mem_nil
      · exact ih h
    · obtain ⟨first, more, hsplit⟩ := List.exists_cons_of_ne_nil (List.splitOnP_ne_nil p cs)
      rw [if_neg hd, hsplit, List.modifyHead_cons, List.mem_cons] at h
      rw [hsplit] at ih
      obtain rfl | h := h
      · intro c hc
        obtain rfl | hc := List.mem_cons.mp hc
        · exact Bool.eq_false_iff.mpr hd
        · exact ih List.mem_cons_self c hc
      · exact ih (List.mem_cons_of_mem first h)

/-- There are no newlines in lines. -/
theorem not_mem_of_mem_splitLines {cs l : List Char} (h : l ∈ splitLines cs) : '\n' ∉ l := by
  intro hmem
  have hsplit := not_of_mem_splitOnP h '\n' hmem
  simp at hsplit

/-- Every text has at least one line. -/
theorem splitLines_ne_nil (cs : List Char) : splitLines cs ≠ [] := List.splitOnP_ne_nil _ cs

/-- A character in front of a text goes to its first line. -/
theorem splitLines_cons {c : Char} (hc : c ≠ '\n') (cs : List Char) :
    ∃ first more, splitLines cs = first :: more ∧ splitLines (c :: cs) = (c :: first) :: more := by
  obtain ⟨first, more, hsplit⟩ := List.exists_cons_of_ne_nil (splitLines_ne_nil cs)
  refine ⟨first, more, hsplit, ?_⟩
  unfold splitLines List.splitOn at hsplit ⊢
  rw [List.splitOnP_cons_eq_if_modifyHead, if_neg (by simpa using hc), hsplit,
    List.modifyHead_cons]

/-- A single line makes up itself. -/
theorem joinLines_singleton (l : List Char) : joinLines [l] = l := List.intercalate_singleton

/-- A text without newlines is its only line. -/
theorem splitLines_of_not_mem {l : List Char} (h : '\n' ∉ l) : splitLines l = [l] := by
  have hsplit : splitLines (joinLines [l]) = [l] :=
    splitLines_joinLines (by simpa using h) (List.cons_ne_nil l [])
  rwa [joinLines_singleton] at hsplit

/-- Lines make up the first one, a newline and what the others make up. -/
theorem joinLines_cons {ls : List (List Char)} (hne : ls ≠ []) (l : List Char) :
    joinLines (l :: ls) = l ++ '\n' :: joinLines ls := by
  cases ls with
  | nil => exact absurd rfl hne
  | cons k ls => rw [joinLines, List.intercalate_cons_cons, List.append_assoc]; rfl

/-- Lines make up what all but the last make up, a newline and the last one. -/
theorem joinLines_concat {ls : List (List Char)} (hne : ls ≠ []) (l : List Char) :
    joinLines (ls ++ [l]) = joinLines ls ++ '\n' :: l := by
  induction ls with
  | nil => exact absurd rfl hne
  | cons k ls ih =>
    rw [List.cons_append, joinLines_cons (List.append_ne_nil_of_right_ne_nil ls (by simp))]
    cases ls with
    | nil => rw [List.nil_append, joinLines_singleton, joinLines_singleton]
    | cons j ls =>
      rw [ih (List.cons_ne_nil j ls), joinLines_cons (List.cons_ne_nil j ls), List.append_assoc,
        List.cons_append]

/-- There are no newlines in the lines of a text. -/
theorem newline_not_mem_of_mem_lines {s line : String} (h : line ∈ lines s) :
    '\n' ∉ line.toList := by
  obtain ⟨l, hl, rfl⟩ := List.mem_map.mp h
  rw [String.toList_ofList]
  exact not_mem_of_mem_splitLines hl

/-- The characters of lines without newlines are the lines of the characters. -/
theorem splitLines_unlines {ls : List String} (h : ∀ l ∈ ls, '\n' ∉ l.toList) (hne : ls ≠ []) :
    splitLines (unlines ls).toList = ls.map String.toList := by
  conv_rhs => rw [← lines_unlines h hne, lines, List.map_map]
  simp only [Function.comp_def, String.toList_ofList, List.map_id']

/-- A text is tidied line by line. -/
theorem tidyLines_eq_unlines (s : String) : tidyLines "\n" s = unlines ((lines s).map tidy) := by
  rw [tidyLines, lines, List.map_map, unlines]
  congr 1
  apply List.map_congr_left
  intro l _
  rw [Function.comp, tidy, String.toList_ofList]

/-- With newlines as line ends, the lines of a formatted text are those of the text one by one. -/
theorem lines_tidyLines (s : String) : lines (tidyLines "\n" s) = (lines s).map tidy := by
  rw [tidyLines_eq_unlines]
  apply lines_unlines
  · intro line hline
    obtain ⟨l, hl, rfl⟩ := List.mem_map.mp hline
    exact not_mem_tidy (newline_not_mem_of_mem_lines hl)
  · simpa using lines_ne_nil s

/-- The lines of a tidied text are the trimmed lines. -/
theorem splitLines_tidyLines (s : String) :
    splitLines (tidyLines "\n" s).toList = (splitLines s.toList).map (trimEnd isBlank) := by
  have hlines := congrArg (List.map String.toList) (lines_tidyLines s)
  simpa only [lines, tidy, List.map_map, Function.comp_def, String.toList_ofList,
    List.map_id'] using hlines

/-! ## Line endings -/

/-- The text with an ending in the place of every newline. -/
def replaceNewlines (ending s : String) : String :=
  String.ofList (s.toList.flatMap fun c => if c = '\n' then ending.toList else [c])

/-- Whether an ending ends a line with nothing but white space in front of the newline. -/
def IsLineEnding (ending : String) : Prop :=
  ∃ blanks : List Char, blanks.all isBlank = true ∧ '\n' ∉ blanks ∧
    ending.toList = blanks ++ ['\n']

/-- The newline ends lines. -/
theorem isLineEnding_newline : IsLineEnding "\n" :=
  ⟨[], rfl, List.not_mem_nil, rfl⟩

/-- The carriage return with a newline ends lines. -/
theorem isLineEnding_carriageReturn : IsLineEnding "\r\n" :=
  ⟨['\r'], by decide, by decide, rfl⟩

/-- Lines that are read from a text with another ending are the lines of it, but for the white space
that the ending leaves behind. -/
theorem map_trimEnd_splitLines_intercalate {ending : String} (h : IsLineEnding ending)
    {ls : List (List Char)} (hls : ∀ l ∈ ls, '\n' ∉ l) (hne : ls ≠ []) :
    (splitLines (ending.toList.intercalate ls)).map (trimEnd isBlank) =
      ls.map (trimEnd isBlank) := by
  obtain ⟨blanks, hblank, hnewline, hending⟩ := h
  induction ls with
  | nil => exact absurd rfl hne
  | cons l ls ih =>
    have hl : '\n' ∉ l := hls l List.mem_cons_self
    cases ls with
    | nil => rw [List.intercalate_singleton, splitLines_of_not_mem hl]
    | cons k ls =>
      have hrest := ih (fun j hj => hls j (List.mem_cons_of_mem l hj)) (List.cons_ne_nil k ls)
      have hfirst : '\n' ∉ l ++ blanks := by
        rw [List.mem_append]
        exact not_or.mpr ⟨hl, hnewline⟩
      -- blanks in front of the newline of an ending come to stand at the end of the line
      have hcut : ending.toList.intercalate (l :: k :: ls) =
          (l ++ blanks) ++ '\n' :: ending.toList.intercalate (k :: ls) := by
        rw [List.intercalate_cons_cons, hending]
        simp only [List.append_assoc, List.cons_append, List.nil_append]
      rw [hcut, splitLines_append_newline, splitLines_of_not_mem hfirst, List.map_append, hrest,
        List.map_singleton, trimEnd_append_of_all l hblank]
      rfl

/-- The characters of a tidied text are the trimmed lines with the line ending between them. -/
theorem toList_tidyLines (ending s : String) :
    (tidyLines ending s).toList =
      ending.toList.intercalate ((splitLines s.toList).map (trimEnd isBlank)) := by
  rw [tidyLines, String.toList_intercalate, List.map_map]
  simp only [Function.comp_def, String.toList_ofList]

/-- There are no newlines in trimmed lines. -/
theorem newline_not_mem_of_mem_map_trimEnd {cs l : List Char}
    (h : l ∈ (splitLines cs).map (trimEnd isBlank)) : '\n' ∉ l := by
  obtain ⟨k, hk, rfl⟩ := List.mem_map.mp h
  exact fun hmem => not_mem_of_mem_splitLines hk ((trimEnd_prefix_self isBlank k).mem hmem)

/-- Formatting absorbs an earlier formatting with any ending that is white space and a newline. -/
theorem tidyLines_tidyLines_ending {first : String} (h : IsLineEnding first) (second s : String) :
    tidyLines second (tidyLines first s) = tidyLines second s := by
  have hne : (splitLines s.toList).map (trimEnd isBlank) ≠ [] := by
    rw [ne_eq, List.map_eq_nil_iff]
    exact splitLines_ne_nil s.toList
  have hread : (splitLines (tidyLines first s).toList).map (trimEnd isBlank) =
      (splitLines s.toList).map (trimEnd isBlank) := by
    rw [toList_tidyLines, map_trimEnd_splitLines_intercalate h
      (fun l => newline_not_mem_of_mem_map_trimEnd) hne, List.map_map]
    exact List.map_congr_left fun l _ => trimEnd_trimEnd isBlank l
  apply String.toList_injective
  rw [toList_tidyLines, hread, toList_tidyLines]

/-- Tidying a text twice is tidying it once. -/
theorem tidyLines_tidyLines (s : String) :
    tidyLines "\n" (tidyLines "\n" s) = tidyLines "\n" s :=
  tidyLines_tidyLines_ending isLineEnding_newline "\n" s

/-- Replacing every newline of some lines puts the replacement between the lines. -/
theorem flatMap_joinLines (ending : List Char) {ls : List (List Char)} (h : ∀ l ∈ ls, '\n' ∉ l) :
    ((joinLines ls).flatMap fun c => if c = '\n' then ending else [c]) =
      ending.intercalate ls := by
  have hline : ∀ l : List Char, '\n' ∉ l →
      (l.flatMap fun c => if c = '\n' then ending else [c]) = l := by
    intro l hl
    conv_rhs => rw [← List.flatMap_singleton' l]
    refine List.flatMap_congr fun c hc => if_neg ?_
    rintro rfl
    exact hl hc
  induction ls with
  | nil => rfl
  | cons l ls ih =>
    have hl := hline l (h l List.mem_cons_self)
    cases ls with
    | nil => rw [joinLines_singleton, List.intercalate_singleton, hl]
    | cons k ls =>
      rw [joinLines_cons (List.cons_ne_nil k ls), List.flatMap_append, List.flatMap_cons, hl,
        ih fun j hj => h j (List.mem_cons_of_mem l hj), List.intercalate_cons_cons, if_pos rfl,
        List.append_assoc]

/-- The ending takes the place of the newlines and changes nothing else. -/
theorem tidyLines_eq_replaceNewlines (ending s : String) :
    tidyLines ending s = replaceNewlines ending (tidyLines "\n" s) := by
  apply String.toList_injective
  rw [replaceNewlines, String.toList_ofList, toList_tidyLines, toList_tidyLines]
  exact (flatMap_joinLines ending.toList fun l => newline_not_mem_of_mem_map_trimEnd).symm

/-- The lines of a tidied text are tidy. -/
theorem isTidy_of_mem_lines_tidyLines {s line : String} (h : line ∈ lines (tidyLines "\n" s)) :
    IsTidy line.toList := by
  rw [lines_tidyLines] at h
  obtain ⟨l, -, rfl⟩ := List.mem_map.mp h
  rw [tidy, String.toList_ofList]
  exact isTidy_trimEnd l.toList

end Text

end JavaScribe
