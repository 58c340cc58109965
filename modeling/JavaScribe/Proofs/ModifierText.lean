import JavaScribe.Modifier.Legality
import JavaScribe.Proofs.Words
import Mathlib.Data.List.Nodup

/-!
# Modifiers as they are written

The modifiers of a declaration are written one blank apart, and the words of the text are the
keywords again (`keywords_modifierText`).  So what is said of a text, that a keyword stands in it or
that its keywords are in canonical order, is said of the list of modifiers.

The second part says what is known of the list when a request was accepted: which keywords stand in
it is told by the request and the rule (`Subject.mem_emitted_iff`), and a rule that makes one
modifier illegal beside another keeps the two apart.
-/

set_option autoImplicit false

namespace JavaScribe

namespace Text

/-- The words of a text, as texts. -/
def wordTexts (s : String) : List String := (words s.toList).map String.ofList

end Text

/-- The keywords of modifiers are read back from the text that they are written as. -/
theorem wordTexts_modifierText (ms : List Modifier) :
    Text.wordTexts (modifierText ms) = ms.map Modifier.word := by
  have hword : ∀ m : Modifier,
      m.word.toList ≠ [] ∧ ∀ c ∈ m.word.toList, Text.isBlank c = false := by
    intro m
    have hall : m.word.toList ≠ [] ∧ m.word.toList.any Text.isBlank = false := by
      cases m <;> decide
    exact ⟨hall.1, fun c hc => Bool.eq_false_iff.mpr (List.any_eq_false.mp hall.2 c hc)⟩
  have hwords : Text.words ([' '].intercalate (ms.map fun m => m.word.toList)) =
      ms.map fun m => m.word.toList := by
    refine Text.words_intercalate fun w hw => ?_
    obtain ⟨m, -, rfl⟩ := List.mem_map.mp hw
    exact hword m
  have htext : (modifierText ms).toList = [' '].intercalate (ms.map fun m => m.word.toList) := by
    rw [modifierText, String.toList_intercalate, List.map_map]
    rfl
  rw [Text.wordTexts, htext, hwords, List.map_map]
  simp only [Function.comp_def, String.ofList_toList]

namespace Modifier

/-- Whether the keyword is one of the words of a text. -/
def StandsIn (m : Modifier) (text : String) : Prop := m.word ∈ Text.wordTexts text

/-- Every modifier has its place in the canonical order. -/
theorem mem_canonicalOrder (m : Modifier) : m ∈ canonicalOrder := by
  cases m <;> decide

/-- No keyword stands for two modifiers. -/
theorem nodup_words_canonicalOrder : (canonicalOrder.map word).Nodup := by decide

/-- A modifier is told by its keyword. -/
theorem word_injective {m n : Modifier} (h : m.word = n.word) : m = n :=
  List.inj_on_of_nodup_map nodup_words_canonicalOrder (mem_canonicalOrder m)
    (mem_canonicalOrder n) h

/-- A modifier stands in the text of modifiers just if it is one of them. -/
theorem standsIn_modifierText {m : Modifier} {ms : List Modifier} :
    m.StandsIn (modifierText ms) ↔ m ∈ ms := by
  rw [StandsIn, wordTexts_modifierText, List.mem_map]
  constructor
  · rintro ⟨n, hn, hword⟩
    exact word_injective hword ▸ hn
  · intro hm
    exact ⟨m, hm, rfl⟩

end Modifier

/-- Whether a text consists of keywords one blank apart, which come in canonical order, and at most
one of which says who may use the declaration. -/
structure IsModifierText (text : String) : Prop where
  spaced : text = " ".intercalate (Text.wordTexts text)
  ordered : (Text.wordTexts text).Sublist (Modifier.canonicalOrder.map Modifier.word)
  access : ∀ m ∈ Modifier.access, ∀ n ∈ Modifier.access,
    m.StandsIn text → n.StandsIn text → m = n

/-- Modifiers in canonical order, of which at most one is of access, make a proper text. -/
theorem isModifierText_of_sublist {ms : List Modifier} (hms : ms.Sublist Modifier.canonicalOrder)
    (haccess : ∀ m ∈ Modifier.access, ∀ n ∈ Modifier.access, m ∈ ms → n ∈ ms → m = n) :
    IsModifierText (modifierText ms) where
  spaced := by rw [wordTexts_modifierText]; rfl
  ordered := by rw [wordTexts_modifierText]; exact hms.map Modifier.word
  access := by
    simp only [Modifier.standsIn_modifierText]
    exact haccess

namespace Subject

/-- When an abstract member can be one: a method without body, in a class that is abstract
itself. -/
theorem requireAbstractable_eq_ok_iff {s : Subject} {requested : ModifierSet} :
    s.requireAbstractable requested = .ok () ↔
      (s.kind = .method → requested.has .abstract = true →
        s.hasBody = false ∧ (s.site = .inClass → s.enclosingAbstract = true)) := by
  unfold requireAbstractable
  split
  · next h =>
    simp only [h.1, h.2, true_imp_iff]
    cases s.hasBody with
    | true => simp
    | false =>
      simp only [Bool.false_eq_true, if_false, true_and]
      split
      · next hclass => simp [hclass.1, hclass.2]
      · next hclass =>
        simp only [not_and, Bool.not_eq_false] at hclass
        simpa using hclass
  · next h =>
    simp only [true_iff]
    intro hkind hrequested
    exact absurd ⟨hkind, hrequested⟩ h

/-- When a request is accepted, and what is written then. -/
theorem judge_eq_ok_iff {s : Subject} {requested : ModifierSet} {a : AcceptedModifiers} :
    s.judge requested = .ok a ↔
      ∃ rule, ModifierRule.find? s.kind s.site = some rule ∧
        (Modifier.access.filter requested.has).length ≤ 1 ∧
        (s.kind = .method → requested.has .abstract = true →
          s.hasBody = false ∧ (s.site = .inClass → s.enclosingAbstract = true)) ∧
        (∀ m, requested.has m = true → rule requested m ≠ .illegal) ∧
        a = ⟨s.emitted rule requested, withVerdict rule requested .redundant⟩ := by
  unfold judge
  cases hrule : ModifierRule.find? s.kind s.site with
  | none => simp
  | some rule =>
    have hlegal : withVerdict rule requested .illegal = [] ↔
        ∀ m, requested.has m = true → rule requested m ≠ .illegal := by
      simp [withVerdict, List.filter_eq_nil_iff, Modifier.mem_canonicalOrder]
    rw [← requireAbstractable_eq_ok_iff]
    simp only [Option.some.injEq, exists_eq_left']
    split
    · next haccess => simp [Nat.not_le.mpr haccess]
    · next haccess =>
      simp only [Nat.le_of_not_lt haccess, true_and]
      cases s.requireAbstractable requested with
      | error e => simp
      | ok =>
        simp only [true_and, ← hlegal]
        cases withVerdict rule requested .illegal with
        | nil => simp [eq_comm]
        | cons m ms => simp

/-- Which modifiers are written is told by the request and the rule, but for the keyword `default`,
for which neither is asked. -/
theorem mem_emitted_iff {s : Subject} {rule : ModifierRule} {requested : ModifierSet}
    {m : Modifier} (hm : m ≠ .default) :
    m ∈ s.emitted rule requested ↔ requested.has m = true ∧ rule requested m = .emit := by
  simp [emitted, List.mem_filter, Modifier.mem_canonicalOrder, hm]

/-- The keyword `default` is written just for a method of an interface that has a body. -/
theorem default_mem_emitted_iff {s : Subject} {rule : ModifierRule} {requested : ModifierSet} :
    .default ∈ s.emitted rule requested ↔ s.isDefaultMethod requested = true := by
  simp [emitted, List.mem_filter, Modifier.mem_canonicalOrder]

end Subject

namespace ModifierRule

/-- A modifier that goes without another one is written if the other one is not asked for. -/
theorem without_eq_emit_iff {requested : ModifierSet} {conflict : Modifier} {v : Verdict} :
    without requested conflict v = .emit ↔ requested.has conflict = false ∧ v = .emit := by
  unfold without
  cases requested.has conflict <;> simp

/-- A modifier that needs another one is written if the other one is asked for. -/
theorem onlyWith_eq_emit_iff {requested : ModifierSet} {needed : Modifier} {v : Verdict} :
    onlyWith requested needed v = .emit ↔ requested.has needed = true ∧ v = .emit := by
  unfold onlyWith
  cases requested.has needed <;> simp

end ModifierRule

namespace Subject

section Accepted

variable {s : Subject} {requested : ModifierSet} {a : AcceptedModifiers}

/-- Accepted modifiers are written as a proper text. -/
theorem isModifierText_of_judge (h : s.judge requested = .ok a) :
    IsModifierText (modifierText a.emitted) := by
  rw [judge_eq_ok_iff] at h
  obtain ⟨rule, -, haccess, -, -, rfl⟩ := h
  refine isModifierText_of_sublist List.filter_sublist fun m hm n hn hmem hmen => ?_
  have hrequested : ∀ k ∈ Modifier.access, k ∈ s.emitted rule requested →
      k ∈ Modifier.access.filter requested.has := by
    intro k hk hmem
    have hdefault : k ≠ .default := by
      rintro rfl
      revert hk
      decide
    exact List.mem_filter.mpr ⟨hk, ((mem_emitted_iff hdefault).mp hmem).1⟩
  have hm' := hrequested m hm hmem
  have hn' := hrequested n hn hmen
  -- both are in a list that has one element at most
  rcases Nat.le_one_iff_eq_zero_or_eq_one.mp haccess with hlength | hlength
  · rw [List.eq_nil_of_length_eq_zero hlength] at hm'
    cases hm'
  · obtain ⟨k, hk⟩ := List.length_eq_one_iff.mp hlength
    rw [hk, List.mem_singleton] at hm' hn'
    rw [hm', hn']

/-- A constructor is only accepted in a class. -/
theorem site_of_judge_constructor (h : s.judge requested = .ok a)
    (hkind : s.kind = .constructor) : s.site = .inClass := by
  rw [judge_eq_ok_iff] at h
  obtain ⟨rule, hrule, -⟩ := h
  rw [hkind] at hrule
  cases hsite : s.site with
  | inClass => rfl
  | topLevel | inInterface =>
    rw [hsite] at hrule
    cases hrule

/-- An accepted method is abstract only in an abstract class, without a body, and without any of
the modifiers that speak of an implementation. -/
theorem abstract_method_of_judge (h : s.judge requested = .ok a) (hkind : s.kind = .method)
    (habstract : .abstract ∈ a.emitted) :
    s.hasBody = false ∧ s.site = .inClass ∧ s.enclosingAbstract = true ∧
      ∀ m ∈ [Modifier.privateAccess, .static, .final, .synchronized, .native, .strictfp],
        m ∉ a.emitted := by
  rw [judge_eq_ok_iff] at h
  obtain ⟨rule, hrule, -, hallowed, -, rfl⟩ := h
  obtain ⟨hrequested, hemit⟩ := (mem_emitted_iff (by decide)).mp habstract
  obtain ⟨hbody, hclass⟩ := hallowed hkind hrequested
  rw [hkind] at hrule
  cases hsite : s.site with
  | topLevel =>
    rw [hsite] at hrule
    cases hrule
  | inInterface =>
    rw [hsite] at hrule
    obtain rfl := Option.some.inj hrule
    obtain ⟨-, hverdict⟩ := ModifierRule.without_eq_emit_iff.mp hemit
    cases hverdict
  | inClass =>
    rw [hsite] at hrule
    obtain rfl := Option.some.inj hrule
    refine ⟨hbody, rfl, hclass hsite, ?_⟩
    intro m hm hmem
    have hwithout : ModifierRule.methodInClass requested m =
        ModifierRule.without requested .abstract .emit := by
      simp only [List.mem_cons, List.not_mem_nil, or_false] at hm
      rcases hm with rfl | rfl | rfl | rfl | rfl | rfl <;> rfl
    have hdefault : m ≠ .default := by
      rintro rfl
      revert hm
      decide
    have hconflict := ((mem_emitted_iff hdefault).mp hmem).2
    rw [hwithout, ModifierRule.without_eq_emit_iff, hrequested] at hconflict
    cases hconflict.1

/-- The text of an accepted class says that it is abstract if this was asked for, and then it does
not say that it is final. -/
theorem class_of_judge (h : s.judge requested = .ok a) (hkind : s.kind = .classType) :
    (requested.has .abstract = true → .abstract ∈ a.emitted) ∧
      ¬(.abstract ∈ a.emitted ∧ .final ∈ a.emitted) := by
  rw [judge_eq_ok_iff] at h
  obtain ⟨rule, hrule, -, -, -, rfl⟩ := h
  have hverdicts : rule requested .abstract = .emit ∧
      rule requested .final = ModifierRule.without requested .abstract .emit := by
    rw [hkind] at hrule
    cases hsite : s.site <;> rw [hsite] at hrule <;> obtain rfl := Option.some.inj hrule <;>
      exact ⟨rfl, rfl⟩
  rw [mem_emitted_iff (by decide), mem_emitted_iff (by decide), hverdicts.1, hverdicts.2,
    ModifierRule.without_eq_emit_iff]
  refine ⟨fun hrequested => ⟨hrequested, rfl⟩, ?_⟩
  rintro ⟨⟨hrequested, -⟩, -, hconflict, -⟩
  rw [hrequested] at hconflict
  cases hconflict

/-- An accepted field is not both final and volatile. -/
theorem field_of_judge (h : s.judge requested = .ok a) (hkind : s.kind = .field) :
    ¬(.final ∈ a.emitted ∧ .volatile ∈ a.emitted) := by
  rw [judge_eq_ok_iff] at h
  obtain ⟨rule, hrule, -, -, -, rfl⟩ := h
  rw [mem_emitted_iff (by decide), mem_emitted_iff (by decide)]
  rintro ⟨⟨hfinal, -⟩, -, hvolatile⟩
  rw [hkind] at hrule
  cases hsite : s.site with
  | topLevel =>
    rw [hsite] at hrule
    cases hrule
  | inInterface =>
    rw [hsite] at hrule
    obtain rfl := Option.some.inj hrule
    cases hvolatile
  | inClass =>
    rw [hsite] at hrule
    obtain rfl := Option.some.inj hrule
    obtain ⟨hconflict, -⟩ := ModifierRule.without_eq_emit_iff.mp hvolatile
    rw [hfinal] at hconflict
    cases hconflict

/-- On a method of an interface, `static` is written if it was asked for, and `private` is written
only beside it. -/
theorem method_in_interface_of_judge (h : s.judge requested = .ok a) (hkind : s.kind = .method)
    (hsite : s.site = .inInterface) :
    (.static ∈ a.emitted ↔ requested.has .static = true) ∧
      (.privateAccess ∈ a.emitted → .static ∈ a.emitted) := by
  rw [judge_eq_ok_iff] at h
  obtain ⟨rule, hrule, -, -, -, rfl⟩ := h
  rw [hkind, hsite] at hrule
  obtain rfl := Option.some.inj hrule
  have hstatic : .static ∈ s.emitted ModifierRule.methodInInterface requested ↔
      requested.has .static = true := by
    rw [mem_emitted_iff (by decide)]
    exact and_iff_left rfl
  refine ⟨hstatic, fun hprivate => hstatic.mpr ?_⟩
  obtain ⟨-, hemit⟩ := (mem_emitted_iff (by decide)).mp hprivate
  exact (ModifierRule.onlyWith_eq_emit_iff.mp hemit).1

/-- The keyword `default` is written on the methods of interfaces that have a body and are not
static. -/
theorem default_mem_iff_of_judge (h : s.judge requested = .ok a) :
    .default ∈ a.emitted ↔
      s.kind = .method ∧ s.site = .inInterface ∧ s.hasBody = true ∧ .static ∉ a.emitted := by
  have hstatic : s.kind = .method → s.site = .inInterface →
      (.static ∈ a.emitted ↔ requested.has .static = true) :=
    fun hkind hsite => (method_in_interface_of_judge h hkind hsite).1
  rw [judge_eq_ok_iff] at h
  obtain ⟨rule, -, -, -, -, rfl⟩ := h
  rw [default_mem_emitted_iff, isDefaultMethod]
  simp only [Bool.and_eq_true, beq_iff_eq, Bool.not_eq_true', and_assoc]
  refine and_congr_right fun hkind => and_congr_right fun hsite => and_congr_right fun _ => ?_
  rw [hstatic hkind hsite, Bool.not_eq_true]

end Accepted

end Subject

end JavaScribe
