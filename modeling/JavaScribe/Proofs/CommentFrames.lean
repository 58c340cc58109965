import JavaScribe.Javadoc.Comment
import JavaScribe.Proofs.NormalTexts
import JavaScribe.Proofs.PrintedTypes

/-!
# The frame of a comment

A comment ends at the first pair of a star and a slash.  Its frame holds one such pair, as the last
two characters of it; every other one stands in a text that the comment is made for.  Those texts
keep their words, and nothing is escaped, so a comment ends where it should exactly if none of its
texts holds the pair (`Javadoc.comment_wellFormed`).

The documentation is written line by line and the texts of most tags on one line each.  Only what
the see, since and author tags say is written as it is, so it takes lines without a frame where it
has more than one.
-/

set_option autoImplicit false

namespace JavaScribe

namespace Text

/-! ## Texts on one line -/

/-- A collapsed text has the words of the text. -/
theorem words_collapse (s : String) : words (collapse s).toList = words s.toList := by
  have hchars : (collapse s).toList = [' '].intercalate (words s.toList) := by
    rw [collapse, String.toList_intercalate, List.map_map]
    simp only [Function.comp_def, String.toList_ofList, List.map_id']
    rfl
  rw [hchars, words_intercalate fun w hw => no_blank_of_mem_words hw]

/-- What is in lists put together with a separator is in one of the lists, if it is not in the
separator. -/
theorem mem_intercalate_iff {α : Type} {a : α} {sep : List α} (ha : a ∉ sep)
    (ls : List (List α)) : a ∈ sep.intercalate ls ↔ a ∈ ls.flatten := by
  induction ls with
  | nil => rfl
  | cons l ls ih =>
    cases ls with
    | nil => rw [List.intercalate_singleton, List.flatten_singleton]
    | cons k ls =>
      rw [List.intercalate_cons_cons, List.mem_append, List.mem_append, ih, or_iff_left ha,
        List.flatten_cons (l := l), List.mem_append]

/-- A collapsed text is one line. -/
theorem newline_not_mem_collapse (s : String) : '\n' ∉ (collapse s).toList := by
  rw [collapse, String.toList_intercalate, mem_intercalate_iff (by decide)]
  intro hmem
  obtain ⟨l, hl, hnewline⟩ := List.mem_flatten.mp hmem
  simp only [List.mem_map] at hl
  obtain ⟨_, ⟨w, hw, rfl⟩, rfl⟩ := hl
  rw [String.toList_ofList] at hnewline
  exact absurd ((no_blank_of_mem_words hw).2 '\n' hnewline) (by decide)

/-- What is put behind the last line of a text is put behind the text. -/
theorem unlines_concat_append (ls : List String) (s t : String) :
    unlines (ls ++ [s ++ t]) = unlines (ls ++ [s]) ++ t := by
  by_cases hls : ls = []
  · rw [hls, List.nil_append, List.nil_append, unlines, unlines, String.intercalate_singleton,
      String.intercalate_singleton]
  · rw [unlines, unlines, String.intercalate_append_of_ne_nil hls (by simp),
      String.intercalate_append_of_ne_nil hls (by simp), String.intercalate_singleton,
      String.intercalate_singleton, ← String.append_assoc]

/-- A text without newlines is its only line. -/
theorem lines_of_newline_not_mem {s : String} (h : '\n' ∉ s.toList) : lines s = [s] := by
  rw [lines, splitLines_of_not_mem h, List.map_singleton, String.ofList_toList]

/-- The text of some lines starts with the first line and a newline. -/
theorem unlines_cons {ls : List String} (hne : ls ≠ []) (l : String) :
    unlines (l :: ls) = l ++ "\n" ++ unlines ls :=
  String.intercalate_cons_of_ne_nil hne

/-- The text of some lines ends with a newline and the last line. -/
theorem unlines_concat {ls : List String} (hne : ls ≠ []) (l : String) :
    unlines (ls ++ [l]) = unlines ls ++ "\n" ++ l := by
  rw [unlines, String.intercalate_append_of_ne_nil hne (List.cons_ne_nil l []),
    String.intercalate_singleton]
  rfl

/-- The text of some lines starts with the first line. -/
theorem prefix_unlines (l : String) (ls : List String) :
    l.toList <+: (unlines (l :: ls)).toList := by
  cases ls with
  | nil =>
    simp only [unlines, String.intercalate_singleton, List.prefix_rfl]
  | cons k ls =>
    rw [unlines, String.intercalate_cons_cons, String.append_assoc, String.toList_append]
    exact List.prefix_append _ _

/-- Lines that are not empty make up a text that is not empty. -/
theorem unlines_ne_empty {ls : List String} (hne : ls ≠ []) (h : ∀ l ∈ ls, l ≠ "") :
    unlines ls ≠ "" := by
  obtain ⟨l, ls, rfl⟩ := List.exists_cons_of_ne_nil hne
  intro hempty
  have hstart := prefix_unlines l ls
  rw [hempty] at hstart
  exact h l List.mem_cons_self (String.toList_eq_nil_iff.mp (List.prefix_nil.mp hstart))

end Text

namespace Javadoc

open Text

/-! ## The closing pair -/

/-- The pair of characters that ends a comment. -/
def closing : List Char := ['*', '/']

/-- The closing of a comment is not empty. -/
theorem closing_ne_nil : closing ≠ [] := List.cons_ne_nil _ _

/-- No character of the closing of a comment is blank. -/
theorem no_blank_of_mem_closing : ∀ c ∈ closing, isBlank c = false := by
  intro c hc
  obtain rfl | rfl : c = '*' ∨ c = '/' := by simpa [closing] using hc
  · rfl
  · rfl

/-- The closing pair at the end of a text is the only one exactly if the text before it has none. -/
theorem closing_only_last_iff (cs : List Char) :
    (∀ before after, cs ++ closing = before ++ closing ++ after → after = []) ↔
      ¬ closing <:+: cs := by
  constructor
  · rintro h ⟨before, after, rfl⟩
    have hnil := h before (after ++ closing) (List.append_assoc _ _ _)
    exact closing_ne_nil (List.append_eq_nil_iff.mp hnil).2
  · intro h before after heq
    obtain ⟨start, hbefore, hafter⟩ | ⟨rest, rfl, -⟩ := List.append_eq_append_iff.mp heq
    case inr => exact absurd ⟨before, rest, rfl⟩ h
    -- how much of the last pair stands in front of the end of this one
    match start with
    | [] =>
      rw [List.append_nil] at hbefore
      exact absurd ⟨before, [], by rw [hbefore, List.append_nil]⟩ h
    | [c] =>
      obtain ⟨rfl, -⟩ := List.cons.inj hafter
      have hends : before ++ ['*'] ++ ['/'] = cs ++ ['*'] := by
        rw [← hbefore, List.append_assoc]
        rfl
      cases List.append_inj_right' hends rfl
    | c :: d :: more =>
      have hrest : [] = more ++ after := (List.cons.inj (List.cons.inj hafter).2).2
      exact (List.append_eq_nil_iff.mp hrest.symm).2

/-- A text without stars in front of another one does not help to close a comment. -/
theorem closing_infix_append_iff {head : List Char} (h : '*' ∉ head) (cs : List Char) :
    closing <:+: head ++ cs ↔ closing <:+: cs := by
  induction head with
  | nil => rfl
  | cons c head ih =>
    rw [List.mem_cons, not_or] at h
    rw [List.cons_append, List.infix_cons_iff, ih h.2, or_iff_right]
    intro hstart
    exact h.1 (List.cons_prefix_cons.mp hstart).1

/-! ## Tags -/

namespace Tags

variable {t : Tags} {head text shown line : String}

/-- The texts that the tags of a comment are written from. -/
def texts (t : Tags) : List String :=
  t.typeParameters.map (·.documentation) ++ t.parameters.map (·.documentation) ++
    [t.returnDoc] ++ t.throws ++ t.see ++ [t.since] ++ t.authors

/-- Whether a comment has a tag: what stands before the text of the tag, the text, and the text as
it is written. -/
inductive Writes (t : Tags) : String → String → String → Prop
  | typeParameter {p : TypeParameter} : p ∈ t.typeParameters → p.documentation ≠ "" →
      Writes t ("@param <" ++ p.name ++ "> ") p.documentation (collapse p.documentation)
  | parameter {p : Parameter} : p ∈ t.parameters → p.documentation ≠ "" →
      Writes t ("@param " ++ p.name ++ " ") p.documentation (collapse p.documentation)
  | returned : t.returnDoc ≠ "" → Writes t "@return " t.returnDoc (collapse t.returnDoc)
  | thrown {text : String} : text ∈ t.throws → Writes t "@throws " text (collapse text)
  | see {text : String} : text ∈ t.see → Writes t "@see " text text
  | since : t.since ≠ "" → Writes t "@since " t.since t.since
  | author {text : String} : text ∈ t.authors → Writes t "@author " text text

/-- A tag that is written unless its text is empty is written with a text. -/
theorem ite_isEmpty_eq_some_iff {tag : String} :
    (if text.isEmpty then none else some tag) = some line ↔ text ≠ "" ∧ line = tag := by
  split
  · next h => simp [String.isEmpty_iff.mp h]
  · next h =>
    have hne : text ≠ "" := mt String.isEmpty_iff.mpr h
    rw [Option.some_inj, and_iff_right hne, eq_comm]

/-- A group of one tag holds the tag unless its text is empty. -/
theorem mem_single_iff {tag : String} : line ∈ single text tag ↔ text ≠ "" ∧ line = tag := by
  rw [← ite_isEmpty_eq_some_iff, single]
  split
  · simp
  · rw [List.mem_singleton, Option.some_inj, eq_comm]

/-- The lines of the groups are the written tags. -/
theorem mem_flatten_groups_iff :
    line ∈ t.groups.flatten ↔
      ∃ head text shown, t.Writes head text shown ∧ line = head ++ shown := by
  rw [groups, List.flatten_filter_not_isEmpty]
  simp only [List.flatten_cons, List.flatten_nil, List.append_nil, List.mem_append,
    mem_single_iff, List.mem_map, parameterGroup, List.mem_filterMap, typeParameterTag?,
    parameterTag?, ite_isEmpty_eq_some_iff]
  constructor
  · rintro ((⟨p, hp, hne, rfl⟩ | ⟨p, hp, hne, rfl⟩) | ⟨hne, rfl⟩ | ⟨text, h, rfl⟩ |
      ⟨text, h, rfl⟩ | ⟨hne, rfl⟩ | ⟨text, h, rfl⟩)
    · exact ⟨_, _, _, .typeParameter hp hne, rfl⟩
    · exact ⟨_, _, _, .parameter hp hne, rfl⟩
    · exact ⟨_, _, _, .returned hne, rfl⟩
    · exact ⟨_, _, _, .thrown h, rfl⟩
    · exact ⟨_, _, _, .see h, rfl⟩
    · exact ⟨_, _, _, .since hne, rfl⟩
    · exact ⟨_, _, _, .author h, rfl⟩
  · rintro ⟨head, text, shown, h, rfl⟩
    cases h with
    | typeParameter hp hne => exact .inl (.inl ⟨_, hp, hne, rfl⟩)
    | parameter hp hne => exact .inl (.inr ⟨_, hp, hne, rfl⟩)
    | returned hne => exact .inr (.inl ⟨hne, rfl⟩)
    | thrown h => exact .inr (.inr (.inl ⟨_, h, rfl⟩))
    | see h => exact .inr (.inr (.inr (.inl ⟨_, h, rfl⟩)))
    | since hne => exact .inr (.inr (.inr (.inr (.inl ⟨hne, rfl⟩))))
    | author h => exact .inr (.inr (.inr (.inr (.inr ⟨_, h, rfl⟩))))

/-- What a tag writes is one of the texts of the tags. -/
theorem Writes.text_mem (h : t.Writes head text shown) : text ∈ t.texts := by
  unfold texts
  cases h with
  | typeParameter hp hne => simp [List.mem_map_of_mem (f := TypeParameter.documentation) hp]
  | parameter hp hne => simp [List.mem_map_of_mem (f := Parameter.documentation) hp]
  | returned hne => simp
  | thrown h => simp [h]
  | see h => simp [h]
  | since hne => simp
  | author h => simp [h]

/-- Every text of the tags that is not empty is written by some tag. -/
theorem exists_writes_of_mem_texts (h : text ∈ t.texts) (hne : text ≠ "") :
    ∃ head shown, t.Writes head text shown := by
  simp only [texts, List.mem_append, List.mem_map, List.mem_singleton] at h
  rcases h with (((((⟨p, hp, rfl⟩ | ⟨p, hp, rfl⟩) | rfl) | h) | h) | rfl) | h
  · exact ⟨_, _, .typeParameter hp hne⟩
  · exact ⟨_, _, .parameter hp hne⟩
  · exact ⟨_, _, .returned hne⟩
  · exact ⟨_, _, .thrown h⟩
  · exact ⟨_, _, .see h⟩
  · exact ⟨_, _, .since hne⟩
  · exact ⟨_, _, .author h⟩

/-- A tag writes the words of its text. -/
theorem Writes.words_shown (h : t.Writes head text shown) :
    words shown.toList = words text.toList := by
  cases h with
  | typeParameter | parameter | returned | thrown => exact words_collapse _
  | see | since | author => rfl

/-- A tag writes one line if the texts that are written as they are have one line. -/
theorem Writes.newline_not_mem_shown (h : t.Writes head text shown)
    (hlines : ∀ s ∈ t.see ++ t.since :: t.authors, '\n' ∉ s.toList) : '\n' ∉ shown.toList := by
  cases h with
  | typeParameter | parameter | returned | thrown => exact newline_not_mem_collapse _
  | see h => exact hlines _ (List.mem_append_left _ h)
  | since => exact hlines _ (List.mem_append_right _ List.mem_cons_self)
  | author h => exact hlines _ (List.mem_append_right _ (List.mem_cons_of_mem _ h))

/-- An identifier holds neither a star nor a newline. -/
theorem plain_of_isIdentifier {name : String} (h : isIdentifier name = true) :
    '*' ∉ name.toList ∧ '\n' ∉ name.toList := by
  have hparts := (TypeExpr.isNameText_of_isIdentifier h).2
  exact ⟨fun hmem => absurd (hparts '*' hmem) (by decide),
    fun hmem => absurd (hparts '\n' hmem) (by decide)⟩

/-- Neither the closing pair nor a line starts in what stands before the text of a tag. -/
theorem Writes.head_plain (h : t.Writes head text shown)
    (htypeParameters : ∀ p ∈ t.typeParameters, isIdentifier p.name = true)
    (hparameters : ∀ p ∈ t.parameters, isIdentifier p.name = true) :
    '*' ∉ head.toList ∧ '\n' ∉ head.toList := by
  cases h with
  | typeParameter hp =>
    obtain ⟨hstar, hnewline⟩ := plain_of_isIdentifier (htypeParameters _ hp)
    simp [String.toList_append, hstar, hnewline]
  | parameter hp =>
    obtain ⟨hstar, hnewline⟩ := plain_of_isIdentifier (hparameters _ hp)
    simp [String.toList_append, hstar, hnewline]
  | returned | thrown | see | since | author => decide

/-- Every tag has one line, if what the see, since and author tags say has. -/
theorem newline_not_mem_of_mem_groups
    (htypeParameters : ∀ p ∈ t.typeParameters, isIdentifier p.name = true)
    (hparameters : ∀ p ∈ t.parameters, isIdentifier p.name = true)
    (hverbatim : ∀ text ∈ t.see ++ t.since :: t.authors, '\n' ∉ text.toList) :
    ∀ line ∈ t.groups.flatten, '\n' ∉ line.toList := by
  intro line hline
  obtain ⟨head, text, shown, hwrites, rfl⟩ := mem_flatten_groups_iff.mp hline
  rw [String.toList_append, List.mem_append, not_or]
  exact ⟨(hwrites.head_plain htypeParameters hparameters).2,
    hwrites.newline_not_mem_shown hverbatim⟩

end Tags

/-! ## Lines -/

/-- The closing pair outlasts any change of a text that keeps its words. -/
theorem closing_infix_iff_of_words_eq {cs ds : List Char} (h : words cs = words ds) :
    closing <:+: cs ↔ closing <:+: ds := by
  rw [infix_iff_exists_words closing_ne_nil no_blank_of_mem_closing, h,
    ← infix_iff_exists_words closing_ne_nil no_blank_of_mem_closing]

/-- The text of some lines closes a comment just if one of the lines does. -/
theorem closing_infix_unlines_iff (ls : List String) :
    closing <:+: (unlines ls).toList ↔ ∃ line ∈ ls, closing <:+: line.toList := by
  rw [unlines, String.toList_intercalate]
  refine (infix_joinLines_iff closing_ne_nil no_blank_of_mem_closing _).trans ?_
  simp only [List.mem_map, exists_exists_and_eq_and]

/-- A tag closes a comment just if its text does. -/
theorem Tags.Writes.closing_infix_iff {t : Tags} {head text shown : String}
    (h : t.Writes head text shown) (hhead : '*' ∉ head.toList) :
    closing <:+: (head ++ shown).toList ↔ closing <:+: text.toList := by
  rw [String.toList_append, closing_infix_append_iff hhead,
    closing_infix_iff_of_words_eq h.words_shown]

/-- The lines of a documentation text close a comment just if the text does. -/
theorem exists_closing_textLines_iff (documentation : String) :
    (∃ line ∈ textLines documentation, closing <:+: line.toList) ↔
      closing <:+: documentation.toList := by
  have hwords : words (normalize documentation).toList = words documentation.toList := by
    rw [normalize, String.toList_ofList, words_normalChars]
  rw [← closing_infix_iff_of_words_eq hwords, textLines]
  split
  · next h =>
    rw [String.isEmpty_iff.mp h]
    simp [closing]
  · rw [← closing_infix_unlines_iff, unlines_lines]

/-- The lines of a documentation text are single lines. -/
theorem newline_not_mem_of_mem_textLines {documentation line : String}
    (h : line ∈ textLines documentation) : '\n' ∉ line.toList := by
  simp only [textLines] at h
  split at h
  · exact absurd h List.not_mem_nil
  · exact newline_not_mem_of_mem_lines h

/-- Apart from empty lines, the body of a comment holds the lines of its text and its tags. -/
theorem mem_blockBody_iff {text : List String} {groups : List (List String)} {line : String}
    (h : line ≠ "") : line ∈ blockBody text groups ↔ line ∈ text ++ groups.flatten := by
  rw [blockBody, mem_intercalate_iff (by simpa using h), List.flatten_filter_not_isEmpty,
    List.flatten_cons]

/-- The body of a comment closes the comment just if a line of its text or of its tags does. -/
theorem exists_closing_blockBody_iff (text : List String) (groups : List (List String)) :
    (∃ line ∈ blockBody text groups, closing <:+: line.toList) ↔
      ∃ line ∈ text ++ groups.flatten, closing <:+: line.toList := by
  refine exists_congr fun line => and_congr_left fun hline => mem_blockBody_iff ?_
  rintro rfl
  exact absurd hline (by decide)

/-- The body of a comment consists of single lines if its text and tags do. -/
theorem newline_not_mem_of_mem_blockBody {text : List String} {groups : List (List String)}
    (h : ∀ line ∈ text ++ groups.flatten, '\n' ∉ line.toList) {line : String}
    (hline : line ∈ blockBody text groups) : '\n' ∉ line.toList := by
  by_cases hempty : line = ""
  · rw [hempty]
    decide
  · exact h line ((mem_blockBody_iff hempty).mp hline)

/-! ## The frame -/

section Frame

variable {indent : String} (hindent : ∀ c ∈ indent.toList, isIndent c = true)

/-- The lines of a block in front of the one that closes it. -/
def blockLines (indent : String) (body : List String) : List String :=
  (indent ++ "/**") :: body.map (framed indent)

/-- A framed line is one line. -/
theorem newline_not_mem_framed {indent line : String} (hindent : '\n' ∉ indent.toList)
    (h : '\n' ∉ line.toList) : '\n' ∉ (framed indent line).toList := by
  unfold framed
  split <;> simp [String.toList_append, hindent, h]

/-- The lines of a block are single lines if those of its body are. -/
theorem newline_not_mem_of_mem_blockLines {indent : String} (hindent : '\n' ∉ indent.toList)
    {body : List String} (h : ∀ line ∈ body, '\n' ∉ line.toList) :
    ∀ line ∈ blockLines indent body, '\n' ∉ line.toList := by
  intro line hline
  obtain rfl | hline := List.mem_cons.mp hline
  · simp [String.toList_append, hindent]
  · obtain ⟨l, hl, rfl⟩ := List.mem_map.mp hline
    exact newline_not_mem_framed hindent (h l hl)

/-- A framed line starts with the frame. -/
theorem framed_prefix (indent line : String) :
    (indent ++ " *").toList <+: (framed indent line).toList := by
  unfold framed
  split
  · exact List.prefix_rfl
  · refine ⟨' ' :: line.toList, ?_⟩
    simp [String.toList_append]

include hindent

/-- The indentation does not help to close a comment. -/
theorem closing_infix_indent_iff (s : String) :
    closing <:+: (indent ++ s).toList ↔ closing <:+: s.toList := by
  rw [String.toList_append]
  apply closing_infix_append_iff
  intro hmem
  exact absurd (hindent '*' hmem) (by decide)

/-- A framed line closes the comment just if the line does. -/
theorem closing_infix_framed_iff (line : String) :
    closing <:+: (framed indent line).toList ↔ closing <:+: line.toList := by
  have hframe : ¬ closing <:+: (indent ++ " *").toList :=
    mt (closing_infix_indent_iff hindent " *").mp (by decide)
  unfold framed
  split
  · next h =>
    rw [String.isEmpty_iff.mp h]
    exact iff_of_false hframe (by decide)
  · have hline : (indent ++ " * " ++ line).toList =
        (indent ++ " *").toList ++ ' ' :: line.toList := by
      simp [String.toList_append]
    rw [hline, infix_append_cons_iff closing_ne_nil (by decide), or_iff_right hframe]

/-- A comment of one line is closed early just if the line closes it. -/
theorem closing_infix_oneLine_iff (line : String) :
    closing <:+: (indent ++ "/** " ++ line ++ " ").toList ↔ closing <:+: line.toList := by
  have hstart : ¬ closing <:+: (indent ++ "/**").toList :=
    mt (closing_infix_indent_iff hindent "/**").mp (by decide)
  have hline : (indent ++ "/** " ++ line ++ " ").toList =
      (indent ++ "/**").toList ++ ' ' :: (line.toList ++ ' ' :: []) := by
    simp [String.toList_append]
  rw [hline, infix_append_cons_iff closing_ne_nil (by decide), or_iff_right hstart,
    infix_append_cons_iff closing_ne_nil (by decide), List.infix_nil,
    or_iff_left closing_ne_nil]

/-- A block is closed early just if a line of its body closes it. -/
theorem closing_infix_block_iff (body : List String) :
    closing <:+: (unlines (blockLines indent body ++ [indent ++ " "])).toList ↔
      ∃ line ∈ body, closing <:+: line.toList := by
  have hstart : ¬ closing <:+: (indent ++ "/**").toList :=
    mt (closing_infix_indent_iff hindent "/**").mp (by decide)
  have hend : ¬ closing <:+: (indent ++ " ").toList :=
    mt (closing_infix_indent_iff hindent " ").mp (by decide)
  rw [closing_infix_unlines_iff]
  simp only [blockLines, List.cons_append, List.mem_cons, List.mem_append, List.mem_map,
    List.not_mem_nil, or_false, or_and_right, exists_or, exists_eq_left, hstart, hend, false_or,
    exists_exists_and_eq_and, closing_infix_framed_iff hindent]

end Frame

/-! ## Comments -/

section Comments

variable {indent documentation : String} {tags : Tags}

/-- A comment that says something is one line or a block. -/
theorem comment_cases (hne : comment indent documentation tags ≠ "") :
    (∃ line, textLines documentation = [line] ∧ tags.groups = [] ∧
      comment indent documentation tags = indent ++ "/** " ++ line ++ " */") ∨
    comment indent documentation tags =
      unlines (blockLines indent (blockBody (textLines documentation) tags.groups) ++
        [indent ++ " */"]) := by
  unfold comment at hne ⊢
  split
  · next htext hgroups =>
    rw [htext, hgroups] at hne
    exact absurd rfl hne
  · next line htext hgroups => exact .inl ⟨line, htext, hgroups, rfl⟩
  · exact .inr rfl

/-- The texts of a comment hold the closing pair exactly if its lines do. -/
theorem exists_closing_line_iff
    (htypeParameters : ∀ p ∈ tags.typeParameters, isIdentifier p.name = true)
    (hparameters : ∀ p ∈ tags.parameters, isIdentifier p.name = true) :
    (∃ line ∈ textLines documentation ++ tags.groups.flatten, closing <:+: line.toList) ↔
      ∃ text ∈ documentation :: tags.texts, closing <:+: text.toList := by
  have htags : (∃ line ∈ tags.groups.flatten, closing <:+: line.toList) ↔
      ∃ text ∈ tags.texts, closing <:+: text.toList := by
    constructor
    · rintro ⟨line, hline, hpair⟩
      obtain ⟨head, text, shown, hwrites, rfl⟩ := Tags.mem_flatten_groups_iff.mp hline
      have hhead := (hwrites.head_plain htypeParameters hparameters).1
      exact ⟨text, hwrites.text_mem, (hwrites.closing_infix_iff hhead).mp hpair⟩
    · rintro ⟨text, htext, hpair⟩
      have hempty : text ≠ "" := by
        rintro rfl
        exact absurd hpair (by decide)
      obtain ⟨head, shown, hwrites⟩ := Tags.exists_writes_of_mem_texts htext hempty
      have hhead := (hwrites.head_plain htypeParameters hparameters).1
      exact ⟨_, Tags.mem_flatten_groups_iff.mpr ⟨head, text, shown, hwrites, rfl⟩,
        (hwrites.closing_infix_iff hhead).mpr hpair⟩
  simp only [List.mem_append, or_and_right, exists_or, List.mem_cons, exists_eq_left, htags,
    exists_closing_textLines_iff]

variable (hindent : ∀ c ∈ indent.toList, isIndent c = true)

include hindent

/-- A comment starts and ends with its frame, and in between it is closed just if a line of its text
or of its tags closes it. -/
theorem exists_comment_eq_append (hne : comment indent documentation tags ≠ "") :
    ∃ start : String, comment indent documentation tags = start ++ "*/" ∧
      (indent ++ "/**").toList <+: start.toList ∧
      (closing <:+: start.toList ↔
        ∃ line ∈ textLines documentation ++ tags.groups.flatten, closing <:+: line.toList) := by
  obtain ⟨line, htext, hgroups, hcomment⟩ | hcomment := comment_cases hne
  · refine ⟨indent ++ "/** " ++ line ++ " ", ?_, ?_, ?_⟩
    · have hend : " */" = " " ++ "*/" := rfl
      rw [hcomment, hend, ← String.append_assoc]
    · refine ⟨' ' :: (line.toList ++ [' ']), ?_⟩
      simp [String.toList_append]
    · rw [closing_infix_oneLine_iff hindent, htext, hgroups]
      simp
  · refine ⟨_, ?_, prefix_unlines _ _, (closing_infix_block_iff hindent _).trans
      (exists_closing_blockBody_iff _ _)⟩
    have hlast : indent ++ " */" = indent ++ " " ++ "*/" := by
      rw [String.append_assoc]
      rfl
    rw [hcomment, hlast, unlines_concat_append]
    rfl

/-- Every line of a comment but the first one starts with the frame. -/
theorem frame_prefix_of_mem_tail (hne : comment indent documentation tags ≠ "")
    (hlines : ∀ line ∈ textLines documentation ++ tags.groups.flatten, '\n' ∉ line.toList) :
    ∀ line ∈ (lines (comment indent documentation tags)).tail,
      (indent ++ " *").toList <+: line.toList := by
  have hnewline := newline_not_mem_of_isIndent hindent
  obtain ⟨line, htext, hgroups, hcomment⟩ | hcomment := comment_cases hne
  · have hline : '\n' ∉ (comment indent documentation tags).toList := by
      rw [htext, hgroups] at hlines
      rw [hcomment]
      simp [String.toList_append, hnewline, hlines line]
    rw [lines_of_newline_not_mem hline]
    exact fun line hmem => absurd hmem List.not_mem_nil
  · rw [hcomment, lines_unlines]
    · intro line hline
      obtain hline | hline := List.mem_append.mp hline
      · obtain ⟨l, -, rfl⟩ := List.mem_map.mp hline
        exact framed_prefix indent l
      · rw [List.mem_singleton.mp hline]
        exact ⟨['/'], by simp [String.toList_append]⟩
    · intro line hline
      obtain hline | hline := List.mem_append.mp hline
      · exact newline_not_mem_of_mem_blockLines hnewline
          (fun l hl => newline_not_mem_of_mem_blockBody hlines hl) line hline
      · rw [List.mem_singleton.mp hline]
        simp [String.toList_append, hnewline]
    · exact List.cons_ne_nil _ _

/-- A comment opens behind its indent and closes with its last two characters.  The pair that closes
it occurs nowhere else exactly if no text of it holds the pair.  All lines but the first have the
frame if what the see, since and author tags say has one line each. -/
theorem comment_wellFormed
    (htypeParameters : ∀ p ∈ tags.typeParameters, isIdentifier p.name = true)
    (hparameters : ∀ p ∈ tags.parameters, isIdentifier p.name = true)
    (hne : comment indent documentation tags ≠ "") :
    (indent ++ "/**").toList <+: (comment indent documentation tags).toList ∧
      closing <:+ (comment indent documentation tags).toList ∧
      ((∀ before after, (comment indent documentation tags).toList = before ++ closing ++ after →
          after = []) ↔
        ∀ text ∈ documentation :: tags.texts, ¬ closing <:+: text.toList) ∧
      ((∀ text ∈ tags.see ++ tags.since :: tags.authors, '\n' ∉ text.toList) →
        ∀ line ∈ (lines (comment indent documentation tags)).tail,
          (indent ++ " *").toList <+: line.toList) := by
  obtain ⟨start, hcomment, hopens, hpairs⟩ := exists_comment_eq_append hindent hne
  have hchars : (comment indent documentation tags).toList = start.toList ++ closing := by
    rw [hcomment, String.toList_append]
    rfl
  refine ⟨?opens, ?closes, ?once, ?framed⟩
  case opens =>
    rw [hchars]
    exact hopens.trans (List.prefix_append _ _)
  case closes =>
    rw [hchars]
    exact List.suffix_append _ _
  case once =>
    rw [hchars, closing_only_last_iff, hpairs,
      exists_closing_line_iff htypeParameters hparameters]
    simp only [not_exists, not_and]
  case framed =>
    intro hverbatim
    apply frame_prefix_of_mem_tail hindent hne
    intro line hline
    obtain hline | hline := List.mem_append.mp hline
    · exact newline_not_mem_of_mem_textLines hline
    · exact Tags.newline_not_mem_of_mem_groups htypeParameters hparameters hverbatim line hline

end Comments

/-- A comment with a type parameter, a parameter and a reference. -/
theorem comment_wellFormed_block :
    let tags : Tags :=
      { typeParameters := [⟨"T", "the\n type", []⟩]
        parameters := [⟨.var "T", "t", "its value", []⟩]
        see := ["#free()"] }
    let text := comment "\t" "Binds." tags
    text = unlines ["\t/**", "\t * Binds.", "\t *", "\t * @param <T> the type",
        "\t * @param t its value", "\t *", "\t * @see #free()", "\t */"] ∧
      "\t/**".toList <+: text.toList ∧ closing <:+ text.toList ∧
      (∀ before after, text.toList = before ++ closing ++ after → after = []) ∧
      ∀ line ∈ (lines text).tail, "\t *".toList <+: line.toList := by
  intro tags text
  have hindent : ∀ c ∈ "\t".toList, isIndent c = true := List.all_eq_true.mp (by decide)
  have htypeParameters : ∀ p ∈ tags.typeParameters, isIdentifier p.name = true := by decide
  have hparameters : ∀ p ∈ tags.parameters, isIdentifier p.name = true := by decide
  have hstar : ∀ s ∈ "Binds." :: tags.texts, '*' ∉ s.toList := by decide
  have htexts : ∀ s ∈ "Binds." :: tags.texts, ¬ closing <:+: s.toList := fun s hs hpair =>
    hstar s hs (hpair.mem List.mem_cons_self)
  have hlines : ∀ s ∈ tags.see ++ tags.since :: tags.authors, '\n' ∉ s.toList := by decide
  have hne : text ≠ "" := by decide
  obtain ⟨hopens, hcloses, honce, hframed⟩ :=
    comment_wellFormed hindent htypeParameters hparameters hne
  exact ⟨by decide, hopens, hcloses, honce.mpr htexts, hframed hlines⟩

/-- Nothing is escaped, so a text can end its comment early, and a reference of two lines leaves the
frame. -/
theorem comment_closes_early :
    let text := comment "" "Ends */ early." {}
    let block := comment "" "" { see := ["a\nb"] }
    text = "/** Ends */ early. */" ∧
      ¬ (∀ before after, text.toList = before ++ closing ++ after → after = []) ∧
      lines block = ["/**", " * @see a", "b", " */"] ∧
      ¬ ∀ line ∈ (lines block).tail, " *".toList <+: line.toList := by
  intro text block
  have hlines : lines block = ["/**", " * @see a", "b", " */"] := by decide
  refine ⟨by decide, fun honce => ?_, hlines, ?_⟩
  · have hearly := honce "/** Ends ".toList " early. */".toList (by decide)
    cases hearly
  · rw [hlines]
    decide

end Javadoc

end JavaScribe
