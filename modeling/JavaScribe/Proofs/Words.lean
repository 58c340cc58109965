import JavaScribe.Proofs.TidyLines

/-!
# Words

The words of a text are its longest runs without white space, and all that is said of them here
follows from one equation: a blank character divides the words before it from those behind it
(`words_append_cons`).  White space at the ends of a text, and of each of its lines, is no part of
a word, so the words of a text outlast its trimming.  A run without white space that occurs in a
text occurs in one of the words (`infix_iff_exists_words`).
-/

set_option autoImplicit false

namespace JavaScribe

namespace Text

variable {c : Char} {cs ds w : List Char}

/-- White space between two texts keeps their words apart. -/
theorem words_append_cons (hc : isBlank c = true) (cs ds : List Char) :
    words (cs ++ c :: ds) = words cs ++ words ds := by
  unfold words
  rw [List.splitOnP_append_cons cs ds hc, List.filter_append]

/-- An empty text has no words. -/
theorem words_nil : words [] = [] := by
  rw [words, List.splitOnP_nil]
  rfl

/-- White space in front of a text adds no words. -/
theorem words_cons (hc : isBlank c = true) (cs : List Char) : words (c :: cs) = words cs := by
  have hdivided := words_append_cons hc [] cs
  rwa [words_nil, List.nil_append, List.nil_append] at hdivided

/-- A run without white space is one word. -/
theorem words_of_no_blank (hne : w ≠ []) (hw : ∀ c ∈ w, isBlank c = false) : words w = [w] := by
  have hkept : (!w.isEmpty) = true := by simpa using hne
  rw [words, List.splitOnP_eq_singleton hw, List.filter_singleton, hkept]
  rfl

/-- Words that are written one blank apart are read as the same words. -/
theorem words_intercalate {ws : List (List Char)}
    (hws : ∀ w ∈ ws, w ≠ [] ∧ ∀ c ∈ w, isBlank c = false) :
    words ([' '].intercalate ws) = ws := by
  induction ws with
  | nil => exact words_nil
  | cons w ws ih =>
    obtain ⟨hne, hblank⟩ := hws w List.mem_cons_self
    have hrest := ih fun v hv => hws v (List.mem_cons_of_mem w hv)
    have hw := words_of_no_blank hne hblank
    cases ws with
    | nil => rw [List.intercalate_singleton, hw]
    | cons v vs =>
      rw [List.intercalate_cons_cons, List.append_assoc, List.singleton_append,
        words_append_cons rfl, hw, hrest, List.singleton_append]

/-- Words are not empty and hold no white space. -/
theorem no_blank_of_mem_words (h : w ∈ words cs) : w ≠ [] ∧ ∀ c ∈ w, isBlank c = false := by
  obtain ⟨hmem, hne⟩ := List.mem_filter.mp h
  exact ⟨by simpa using hne, not_of_mem_splitOnP hmem⟩

/-! ## White space between words -/

/-- Blank text in front adds no words. -/
theorem words_append_of_all (hcs : cs.all isBlank = true) (ds : List Char) :
    words (cs ++ ds) = words ds := by
  induction cs with
  | nil => rfl
  | cons c cs ih =>
    obtain ⟨hc, hrest⟩ := Bool.and_eq_true_iff.mp hcs
    rw [List.cons_append, words_cons hc, ih hrest]

/-- Blank text has no words. -/
theorem words_of_all (hcs : cs.all isBlank = true) : words cs = [] := by
  have hnone := words_append_of_all hcs []
  rwa [List.append_nil, words_nil] at hnone

/-- Blank text behind adds no words. -/
theorem words_concat_of_all (cs : List Char) (hds : ds.all isBlank = true) :
    words (cs ++ ds) = words cs := by
  cases ds with
  | nil => rw [List.append_nil]
  | cons d ds =>
    obtain ⟨hd, hrest⟩ := Bool.and_eq_true_iff.mp hds
    rw [words_append_cons hd, words_of_all hrest, List.append_nil]

/-- A text without words is made of white space. -/
theorem words_eq_nil_iff : words cs = [] ↔ cs.all isBlank = true := by
  refine ⟨fun h => ?_, words_of_all⟩
  induction cs with
  | nil => rfl
  | cons c cs ih =>
    cases hc : isBlank c with
    | true =>
      rw [words_cons hc] at h
      rw [List.all_cons, hc, ih h]
      rfl
    | false =>
      obtain ⟨first, more, hsplit⟩ := List.exists_cons_of_ne_nil (List.splitOnP_ne_nil isBlank cs)
      rw [words, List.splitOnP_cons_eq_if_modifyHead, hc, if_neg Bool.false_ne_true, hsplit,
        List.modifyHead_cons] at h
      simp at h

/-- Lines divide a text between words. -/
theorem words_joinLines (ls : List (List Char)) : words (joinLines ls) = ls.flatMap words := by
  induction ls with
  | nil => exact words_nil
  | cons l ls ih =>
    by_cases hls : ls = []
    · rw [hls, joinLines_singleton, List.flatMap_singleton]
    · rw [joinLines_cons hls, words_append_cons rfl, List.flatMap_cons, ih]

section Trimming

variable {p : Char → Bool} (hp : ∀ c, p c = true → isBlank c = true)

include hp

/-- Trimming white space from the start of a text does not change its words. -/
theorem words_trimStart (cs : List Char) : words (trimStart p cs) = words cs := by
  have hstart : (cs.takeWhile p).all isBlank = true :=
    List.all_eq_true.mpr fun c hc => hp c (List.mem_takeWhile_imp hc)
  conv_rhs => rw [← List.takeWhile_append_dropWhile (p := p) (l := cs), words_append_of_all hstart]
  rfl

/-- Trimming white space from the end of a text does not change its words. -/
theorem words_trimEnd (cs : List Char) : words (trimEnd p cs) = words cs := by
  have hend : (cs.rtakeWhile p).all isBlank = true :=
    List.all_eq_true.mpr fun c hc => hp c (List.mem_rtakeWhile_imp hc)
  conv_rhs =>
    rw [← List.rdropWhile_append_rtakeWhile (p := p) (l := cs), words_concat_of_all _ hend]
  rfl

/-- Trimming white space from both ends of a text does not change its words. -/
theorem words_trim (cs : List Char) : words (trim p cs) = words cs := by
  rw [trim, words_trimEnd hp, words_trimStart hp]

end Trimming

/-! ## What occurs in a word -/

/-- What a character is no part of occurs before the character or behind it. -/
theorem infix_append_cons_iff (hne : w ≠ []) (hc : c ∉ w) (cs ds : List Char) :
    w <:+: cs ++ c :: ds ↔ w <:+: cs ∨ w <:+: ds := by
  have hstart : ∀ v, v <+: c :: ds → c ∉ v → v = [] := by
    intro v hv hcv
    cases v with
    | nil => rfl
    | cons d v =>
      obtain ⟨rfl, -⟩ := List.cons_prefix_cons.mp hv
      exact absurd List.mem_cons_self hcv
  constructor
  · intro h
    rcases List.infix_append_iff.mp h with h | h | ⟨v, u, rfl, hv, hu⟩
    · exact .inl h
    · rcases List.infix_cons_iff.mp h with h | h
      · exact absurd (hstart w h hc) hne
      · exact .inr h
    · have hnil := hstart u hu fun hmem => hc (List.mem_append_right v hmem)
      rw [hnil, List.append_nil]
      exact .inl hv.isInfix
  · rintro (h | h)
    · exact h.trans (List.prefix_append cs _).isInfix
    · exact h.trans ((List.suffix_cons c ds).trans (List.suffix_append cs _)).isInfix

/-- A run without white space occurs in a text exactly if it occurs in a word of it. -/
theorem infix_iff_exists_words (hne : w ≠ []) (hw : ∀ c ∈ w, isBlank c = false)
    (cs : List Char) : w <:+: cs ↔ ∃ v ∈ words cs, w <:+: v := by
  have hrun : ∀ v, (∀ c ∈ v, isBlank c = false) →
      (w <:+: v ↔ ∃ u ∈ words v, w <:+: u) := by
    intro v hv
    by_cases hnil : v = []
    · rw [hnil, words_nil, List.infix_nil]
      simp [hne]
    · rw [words_of_no_blank hnil hv]
      simp
  -- the run that the text starts with grows until the next white space
  suffices h : ∀ v, (∀ c ∈ v, isBlank c = false) →
      (w <:+: v ++ cs ↔ ∃ u ∈ words (v ++ cs), w <:+: u) from
    h [] fun c hc => absurd hc List.not_mem_nil
  induction cs with
  | nil =>
    intro v hv
    rw [List.append_nil]
    exact hrun v hv
  | cons c cs ih =>
    intro v hv
    cases hc : isBlank c with
    | true =>
      have hcw : c ∉ w := fun hmem => by
        rw [hw c hmem] at hc
        cases hc
      have hrest := ih [] fun c hc => absurd hc List.not_mem_nil
      rw [List.nil_append] at hrest
      rw [infix_append_cons_iff hne hcw, words_append_cons hc, hrun v hv, hrest]
      simp only [List.mem_append, or_and_right, exists_or]
    | false =>
      have hgrown := ih (v ++ [c]) fun d hd => by
        rcases List.mem_append.mp hd with hd | hd
        · exact hv d hd
        · rw [List.mem_singleton.mp hd, hc]
      rwa [List.append_assoc, List.singleton_append] at hgrown

/-- A run without white space that occurs in a text occurs in one of the lines. -/
theorem infix_joinLines_iff (hne : w ≠ []) (hw : ∀ c ∈ w, isBlank c = false)
    (ls : List (List Char)) : w <:+: joinLines ls ↔ ∃ l ∈ ls, w <:+: l := by
  rw [infix_iff_exists_words hne hw, words_joinLines]
  constructor
  · rintro ⟨v, hv, hwv⟩
    obtain ⟨l, hl, hv⟩ := List.mem_flatMap.mp hv
    exact ⟨l, hl, (infix_iff_exists_words hne hw l).mpr ⟨v, hv, hwv⟩⟩
  · rintro ⟨l, hl, hwl⟩
    obtain ⟨v, hv, hwv⟩ := (infix_iff_exists_words hne hw l).mp hwl
    exact ⟨v, List.mem_flatMap.mpr ⟨l, hl, hv⟩, hwv⟩

end Text

end JavaScribe
