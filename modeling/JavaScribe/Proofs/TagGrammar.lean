import JavaScribe.Category
import JavaScribe.Proofs.DecimalNumerals
import Mathlib.Data.List.TakeWhile

/-!
# What a tag is made of

A tag that is not empty is read if it can be cut into a numeral, an underscore and a title without a
newline, and if the numeral is not too long (`Category.parse_eq_ok_iff`).  It can be cut in one
place only: the numeral is made of all digits that the tag starts with (`Category.Splits.unique`).
So what comes of a tag is settled by how it is written (`Category.parse_accepts_grammar`): its
numeral gives the section the number that it denotes, and no other tag is taken.
-/

set_option autoImplicit false

namespace JavaScribe

namespace Category

/-- Whether the characters of a tag are those of a numeral, an underscore and a title. -/
structure Splits (cs digits title : List Char) : Prop where
  chars : cs = digits ++ '_' :: title
  digits_ne_nil : digits ≠ []
  isDigit : ∀ c ∈ digits, c.isDigit = true
  newline_not_mem : '\n' ∉ title

/-- The numeral is what stands in front of the first character that is no digit. -/
theorem Splits.span_isDigit {cs digits title : List Char} (h : Splits cs digits title) :
    cs.span Char.isDigit = (digits, '_' :: title) := by
  rw [h.chars]
  apply Text.span_isDigit_append h.isDigit
  intro c hc
  cases hc
  rfl

/-- What splits at an underscore is not empty. -/
theorem Splits.ne_nil {cs digits title : List Char} (h : Splits cs digits title) : cs ≠ [] := by
  rw [h.chars]
  exact List.append_ne_nil_of_right_ne_nil digits (List.cons_ne_nil _ _)

/-- A tag splits into digits and a title in one way only. -/
theorem Splits.unique {cs digits title ds ts : List Char} (h : Splits cs digits title)
    (h' : Splits cs ds ts) : ds = digits ∧ ts = title := by
  have hspan : (ds, '_' :: ts) = (digits, '_' :: title) :=
    h'.span_isDigit.symm.trans h.span_isDigit
  obtain ⟨hdigits, htitle⟩ := Prod.mk.inj hspan
  exact ⟨hdigits, (List.cons.inj htitle).2⟩

/-- A tag is split just as the grammar says. -/
theorem splitTag_eq_some_iff {cs digits title : List Char} :
    splitTag cs = some (digits, title) ↔ Splits cs digits title := by
  constructor
  · intro h
    unfold splitTag at h
    split at h
    · cases h
    · next ds ts hne hspan =>
      split at h
      · cases h
      · next hnewline =>
        obtain ⟨rfl, rfl⟩ := Prod.mk.inj (Option.some.inj h)
        rw [List.span_eq_takeWhile_dropWhile] at hspan
        obtain ⟨hdigits, hrest⟩ := Prod.mk.inj hspan
        refine ⟨?_, hne, ?_, by simpa using hnewline⟩
        · rw [← hdigits, ← hrest, List.takeWhile_append_dropWhile]
        · intro c hc
          rw [← hdigits] at hc
          exact List.mem_takeWhile_imp hc
    · cases h
  · intro h
    have hnewline : title.contains '\n' = false := by simpa using h.newline_not_mem
    rw [splitTag, h.span_isDigit]
    obtain ⟨d, ds, rfl⟩ := List.exists_cons_of_ne_nil h.digits_ne_nil
    simp only [hnewline, Bool.false_eq_true, if_false]

/-- What a tag is read as. -/
theorem parse_eq_ok_iff {tag : String} {c : Category} :
    parse tag = .ok c ↔ tag = "" ∧ c = untitled ∨
      ∃ digits title, Splits tag.toList digits title ∧ digits.length ≤ Text.digitLimit ∧
        c = ⟨tag, some (Text.numeralValue digits), String.ofList title⟩ := by
  by_cases hempty : tag = ""
  · subst hempty
    have hcut : ∀ digits title, ¬Splits "".toList digits title :=
      fun digits title h => h.ne_nil rfl
    have hparse : parse "" = .ok untitled := rfl
    simp only [hparse, Except.ok.injEq, true_and, hcut, false_and, exists_false, or_false]
    exact eq_comm
  · have hnonempty : ¬tag.isEmpty = true := by simpa using hempty
    simp only [hempty, false_and, false_or]
    rw [parse, if_neg hnonempty]
    simp only [← splitTag_eq_some_iff]
    cases splitTag tag.toList with
    | none => simp
    | some parts =>
      obtain ⟨digits, title⟩ := parts
      simp only [Option.some.injEq, Prod.mk.injEq, and_assoc, exists_and_left, exists_eq_left']
      unfold Text.readNumeral
      by_cases hlimit : digits.length ≤ Text.digitLimit
      · simp only [hlimit, if_true, true_and, Except.ok.injEq]
        exact eq_comm
      · simp [hlimit]

/-- A category that was read has the tag that it was read from. -/
theorem tag_of_parse {tag : String} {c : Category} (h : parse tag = .ok c) : c.tag = tag := by
  rcases parse_eq_ok_iff.mp h with ⟨rfl, rfl⟩ | ⟨digits, title, -, -, rfl⟩
  · rfl
  · rfl

/-- A tag that was read once is read in the same way again. -/
theorem parse_tag_of_parse {tag : String} {c : Category} (h : parse tag = .ok c) :
    parse c.tag = .ok c := by
  rw [tag_of_parse h, h]

/-- The title of a category holds no newline. -/
theorem newline_not_mem_title {tag : String} {c : Category} (h : parse tag = .ok c) :
    '\n' ∉ c.title.toList := by
  rcases parse_eq_ok_iff.mp h with ⟨-, rfl⟩ | ⟨digits, title, hsplit, -, rfl⟩
  · exact List.not_mem_nil
  · rw [String.toList_ofList]
    exact hsplit.newline_not_mem

/-! ## Tags that are refused -/

/-- A numeral that is too long is the only fault that a tag which can be cut may have. -/
theorem Splits.parse_eq_overlong {tag : String} {digits title : List Char}
    (h : Splits tag.toList digits title) (hlong : Text.digitLimit < digits.length) :
    parse tag = .error (.overlong ⟨digits.length⟩) := by
  have hnonempty : ¬tag.isEmpty = true := by simpa using h.ne_nil
  rw [parse, if_neg hnonempty, splitTag_eq_some_iff.mpr h]
  simp only [Text.readNumeral, if_neg hlong.not_ge]

/-- A tag that does not split is malformed. -/
theorem parse_eq_malformed {tag : String} (htag : tag ≠ "")
    (h : ∀ digits title, ¬Splits tag.toList digits title) :
    parse tag = .error (.malformed tag) := by
  have hnonempty : ¬tag.isEmpty = true := by simpa using htag
  have hnone : splitTag tag.toList = none := by
    rw [Option.eq_none_iff_forall_ne_some]
    rintro ⟨digits, title⟩ hsplit
    exact h digits title (splitTag_eq_some_iff.mp hsplit)
  rw [parse, if_neg hnonempty, hnone]

/-- Tags are read by their grammar.  The empty tag is the untitled category.  If a tag is a numeral,
an underscore and a title without a newline, it is so in one way only; the category then has the
title and the number that the numeral denotes, which is one number only, unless the numeral has more
than 4300 digits: this is refused for its length.  Any other tag is malformed. -/
theorem parse_accepts_grammar (tag : String) :
    (tag = "" → parse tag = .ok untitled) ∧
      (∀ numeral title : String, Splits tag.toList numeral.toList title.toList →
        (∀ numeral' title' : String, Splits tag.toList numeral'.toList title'.toList →
          numeral' = numeral ∧ title' = title) ∧
        (numeral.length ≤ 4300 → ∃ n, (∀ m, Text.Denotes numeral.toList m ↔ m = n) ∧
          parse tag = .ok ⟨tag, some n, title⟩) ∧
        (4300 < numeral.length → parse tag = .error (.overlong ⟨numeral.length⟩))) ∧
      (tag ≠ "" → (∀ numeral title : String, ¬Splits tag.toList numeral.toList title.toList) →
        parse tag = .error (.malformed tag)) := by
  refine ⟨?untitled, fun numeral title hsplit => ⟨?unique, ?read, ?overlong⟩, ?malformed⟩
  case untitled =>
    rintro rfl
    rfl
  case unique =>
    intro numeral' title' hsplit'
    obtain ⟨hnumeral, htitle⟩ := hsplit.unique hsplit'
    exact ⟨String.toList_inj.mp hnumeral, String.toList_inj.mp htitle⟩
  case read =>
    intro hlimit
    rw [← String.length_toList] at hlimit
    refine ⟨Text.numeralValue numeral.toList,
      Text.denotes_iff hsplit.digits_ne_nil hsplit.isDigit, ?_⟩
    exact parse_eq_ok_iff.mpr
      (.inr ⟨numeral.toList, title.toList, hsplit, hlimit, by rw [String.ofList_toList]⟩)
  case overlong =>
    intro hlong
    rw [← String.length_toList] at hlong ⊢
    exact hsplit.parse_eq_overlong hlong
  case malformed =>
    intro htag hnone
    refine parse_eq_malformed htag fun digits title hsplit => ?_
    apply hnone (String.ofList digits) (String.ofList title)
    rwa [String.toList_ofList, String.toList_ofList]

/-- The title may go on with digits and underscores, and zeros may stand in front of a number; a
numeral is too long even if it is all zeros, and a digit of another script starts no numeral. -/
theorem parse_accepts_grammar_data :
    let zeros := String.ofList (List.replicate 4301 '0')
    parse "" = .ok untitled ∧
      Splits "007_1_Data".toList "007".toList "1_Data".toList ∧ Text.Denotes "007".toList 7 ∧
      parse "007_1_Data" = .ok ⟨"007_1_Data", some 7, "1_Data"⟩ ∧
      Splits (zeros ++ "_Data").toList zeros.toList "Data".toList ∧
      parse (zeros ++ "_Data") = .error (.overlong ⟨4301⟩) ∧
      parse "\u0663_Data" = .error (.malformed "\u0663_Data") := by
  intro zeros
  have hempty : parse "" = .ok untitled := (parse_accepts_grammar "").1 rfl
  have hsplit : Splits "007_1_Data".toList "007".toList "1_Data".toList :=
    splitTag_eq_some_iff.mp (by decide)
  have hdenotes : Text.Denotes "007".toList 7 := ⟨2, by decide⟩
  have hread : parse "007_1_Data" = .ok ⟨"007_1_Data", some 7, "1_Data"⟩ := by
    obtain ⟨-, hlimit, -⟩ := (parse_accepts_grammar "007_1_Data").2.1 "007" "1_Data" hsplit
    obtain ⟨n, hnumber, hparse⟩ := hlimit (by decide)
    rw [hparse, (hnumber 7).mp hdenotes]
  have hzeros : zeros.toList = List.replicate 4301 '0' := String.toList_ofList
  have hlength : zeros.length = 4301 := by
    rw [← String.length_toList, hzeros, List.length_replicate]
  have hlong : Splits (zeros ++ "_Data").toList zeros.toList "Data".toList := by
    refine ⟨String.toList_append, ?_, ?_, by decide⟩
    · rw [hzeros, List.replicate_succ]
      exact List.cons_ne_nil _ _
    · intro c hc
      rw [hzeros] at hc
      rw [List.eq_of_mem_replicate hc]
      rfl
  have hoverlong : parse (zeros ++ "_Data") = .error (.overlong ⟨4301⟩) := by
    obtain ⟨-, -, hlimit⟩ := (parse_accepts_grammar (zeros ++ "_Data")).2.1 zeros "Data" hlong
    rw [← hlength]
    exact hlimit (by rw [hlength]; decide)
  have hmalformed : parse "\u0663_Data" = .error (.malformed "\u0663_Data") := by
    have hcut : splitTag "\u0663_Data".toList = none := by decide
    refine (parse_accepts_grammar "\u0663_Data").2.2 (by decide) fun numeral title hsplit => ?_
    rw [splitTag_eq_some_iff.mpr hsplit] at hcut
    cases hcut
  exact ⟨hempty, hsplit, hdenotes, hread, hlong, hoverlong, hmalformed⟩

end Category

end JavaScribe
