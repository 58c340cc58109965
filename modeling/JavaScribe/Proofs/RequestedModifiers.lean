import JavaScribe.Modifier.Report
import JavaScribe.Proofs.ModifierText
import Mathlib.Data.Nat.Bitwise

/-!
# What becomes of requested modifiers

A request is any number.  Only its last twelve bits count, which for a negative number are those of
its remainder (`ModifierSet.ofInt_mod_eq`).  Of an accepted request every bit is accounted for: its
modifier is either written or reported as redundant, and never both.  What is written asks for
nothing redundant any more, so asking for it alone gives the same text without a warning
(`Subject.report_accounts`).

A rule looks at other modifiers of the request.  What it looks at is never redundant itself, so a
rule does not change its mind when the redundant modifiers are left out
(`ModifierRule.eq_emit_of_written`).
-/

set_option autoImplicit false

namespace JavaScribe

namespace Text

/-- The part of a text between its first two quotation marks. -/
def firstQuoted (s : String) : String :=
  String.ofList (((s.toList.dropWhile (· != '"')).drop 1).takeWhile (· != '"'))

end Text

namespace Modifier

/-- The number that asks for the modifier and for nothing else. -/
def mask (m : Modifier) : Nat :=
  match m.bit? with
  | some k => 2 ^ k
  | none => 0

/-- The number that asks for just the given modifiers. -/
def request (ms : List Modifier) : Nat := ms.foldr (fun m n => m.mask ||| n) 0

/-- There are twelve bits for modifiers. -/
theorem bit?_lt {m : Modifier} {k : Nat} (h : m.bit? = some k) : k < 12 := by
  cases m <;> cases h <;> decide

/-- No two modifiers have the same bit. -/
theorem bit?_injective {m n : Modifier} {k : Nat} (hm : m.bit? = some k) (hn : n.bit? = some k) :
    m = n := by
  cases m <;> cases hm <;> cases n <;> cases hn <;> rfl

/-- Every one of the twelve bits has its modifier. -/
theorem exists_bit?_eq {k : Nat} (h : k < 12) : ∃ m : Modifier, m.bit? = some k := by
  have hall : ∀ k < 12, ∃ m ∈ canonicalOrder, m.bit? = some k := by decide
  obtain ⟨m, -, hm⟩ := hall k h
  exact ⟨m, hm⟩

/-- Only `default` has no bit. -/
theorem eq_default_of_bit?_eq_none {m : Modifier} (h : m.bit? = none) : m = .default := by
  cases m <;> cases h
  rfl

/-- A request has the bits of its modifiers. -/
theorem testBit_request {ms : List Modifier} {k : Nat} :
    (request ms).testBit k = true ↔ ∃ m ∈ ms, m.bit? = some k := by
  induction ms with
  | nil => simp [request]
  | cons m ms ih =>
    have hmask : m.mask.testBit k = true ↔ m.bit? = some k := by
      unfold mask
      cases m.bit? with
      | none => simp
      | some j => simp [Nat.testBit_two_pow]
    rw [request, List.foldr_cons, ← request, Nat.testBit_or, Bool.or_eq_true, hmask, ih]
    simp

end Modifier

namespace ModifierSet

/-- Nobody can ask for `default`. -/
theorem has_default (r : ModifierSet) : r.has .default = false := rfl

/-- A modifier is in a set just if its bit is. -/
theorem has_eq_testBit {r : ModifierSet} {m : Modifier} {k : Nat} (h : m.bit? = some k) :
    r.has m = r.bits.testBit k := by
  unfold has
  rw [h]

/-- A request asks for its modifiers and no others. -/
theorem has_ofInt_request {ms : List Modifier} {m : Modifier} (hm : m ≠ .default) :
    (ofInt (Modifier.request ms)).has m = true ↔ m ∈ ms := by
  obtain ⟨k, hk⟩ : ∃ k, m.bit? = some k := by
    cases hbit : m.bit? with
    | none => exact absurd (Modifier.eq_default_of_bit?_eq_none hbit) hm
    | some k => exact ⟨k, rfl⟩
  rw [has_eq_testBit hk]
  show (Modifier.request ms).testBit k = true ↔ m ∈ ms
  rw [Modifier.testBit_request]
  constructor
  · rintro ⟨n, hn, hbit⟩
    exact Modifier.bit?_injective hbit hk ▸ hn
  · intro hmem
    exact ⟨m, hmem, hk⟩

/-- A number has no binary digits beyond its length. -/
theorem lt_two_pow_bitLength (n : Nat) : n < 2 ^ bitLength n := by
  unfold bitLength
  split
  · next h =>
    rw [h]
    decide
  · exact Nat.lt_log2_self

/-- The last twelve bits of a request are those of the number, negative or not. -/
theorem bits_ofInt_mod (m : Int) : (ofInt m).bits % 4096 = (m % 4096).toNat := by
  cases m with
  | ofNat n =>
    show n % 4096 = ((n : Int) % 4096).toNat
    omega
  | negSucc n =>
    have hneg : Int.negSucc n = -(n + 1 : Int) := Int.negSucc_eq n
    simp only [ofInt, hneg]
    split
    · next h =>
      show (4096 - (n + 1)) % 4096 = (-(n + 1 : Int) % 4096).toNat
      omega
    · next h =>
      have hlt := lt_two_pow_bitLength (n + 1)
      have hlength : 12 ≤ bitLength (n + 1) := by
        by_contra hshort
        have hpow : 2 ^ bitLength (n + 1) ≤ 2 ^ 12 := Nat.pow_le_pow_right (by omega) (by omega)
        omega
      -- the power of two is a multiple of 4096 that leaves room for the magnitude
      obtain ⟨d, hd⟩ := Nat.exists_eq_add_of_le hlength
      have hpow : 2 ^ bitLength (n + 1) = 4096 * 2 ^ d := by rw [hd, Nat.pow_add]
      have hbits : Nat.pow 2 (bitLength (n + 1)) = 4096 * 2 ^ d := hpow
      rw [hpow] at hlt
      rw [hbits]
      show (4096 * 2 ^ d - (n + 1)) % 4096 = (-(n + 1 : Int) % 4096).toNat
      omega

/-- What a number asks for is told by its last twelve bits. -/
theorem has_ofInt {m : Int} {x : Modifier} {k : Nat} (h : x.bit? = some k) :
    (ofInt m).has x = (m % 4096).toNat.testBit k := by
  rw [has_eq_testBit h, ← bits_ofInt_mod, show 4096 = 2 ^ 12 from rfl, Nat.testBit_mod_two_pow,
    decide_eq_true (Modifier.bit?_lt h), Bool.true_and]

/-- Only the twelve lowest bits of a number count as a request. -/
theorem has_ofInt_mod (m : Int) : (ofInt (m % 4096)).has = (ofInt m).has := by
  funext x
  cases hbit : x.bit? with
  | none => rw [Modifier.eq_default_of_bit?_eq_none hbit, has_default, has_default]
  | some k => rw [has_ofInt hbit, has_ofInt hbit, Int.emod_emod_of_dvd m (Int.dvd_refl 4096)]

end ModifierSet

namespace ModifierRule

variable {kind : DeclarationKind} {site : Site} {rule : ModifierRule} {r r' : ModifierSet}

/-- A rule depends on what is asked for and on nothing else of a request. -/
theorem eq_of_has_eq (h : find? kind site = some rule) (hhas : r.has = r'.has) :
    rule r = rule r' := by
  funext m
  cases kind <;> cases site <;> cases h <;>
    simp only [topLevelClass, classInClass, classInInterface, topLevelInterface, interfaceInClass,
      interfaceInInterface, fieldInClass, fieldInInterface, constructorInClass, methodInClass,
      methodInInterface, without, onlyWith, hhas]

/-- A modifier that may not stand beside another one may be written when less is asked for. -/
theorem without_eq_emit_of_le (hle : ∀ m, r'.has m = true → r.has m = true) {conflict : Modifier}
    {v : Verdict} (h : without r conflict v = .emit) : without r' conflict v = .emit := by
  obtain ⟨hconflict, rfl⟩ := without_eq_emit_iff.mp h
  refine without_eq_emit_iff.mpr ⟨?_, rfl⟩
  apply Bool.eq_false_iff.mpr
  intro hasked
  rw [hle conflict hasked] at hconflict
  cases hconflict

/-- A rule that lets a modifier be written does so too when nothing is asked for but what it lets
be written. -/
theorem eq_emit_of_written (h : find? kind site = some rule)
    (hr' : ∀ m, r'.has m = (r.has m && rule r m == .emit)) {m : Modifier}
    (hm : r'.has m = true) : rule r' m = .emit := by
  have hsplit : ∀ x, r'.has x = true → r.has x = true ∧ rule r x = .emit := by
    intro x hx
    rw [hr', Bool.and_eq_true, beq_iff_eq] at hx
    exact hx
  have hle : ∀ x, r'.has x = true → r.has x = true := fun x hx => (hsplit x hx).1
  have hemit : rule r m = .emit := (hsplit m hm).2
  by_cases hmethod : kind = .method ∧ site = .inInterface
  · obtain ⟨rfl, rfl⟩ := hmethod
    obtain rfl := Option.some.inj h
    -- the one modifier that others need here is written itself
    have hstatic : r.has .static = true → r'.has .static = true := by
      intro hasked
      rw [hr', hasked]
      rfl
    cases m with
    | privateAccess | strictfp =>
      have hneeded := (onlyWith_eq_emit_iff.mp hemit).1
      exact onlyWith_eq_emit_iff.mpr ⟨hstatic hneeded, rfl⟩
    | abstract => cases (without_eq_emit_iff.mp hemit).2
    | final => cases (onlyWith_eq_emit_iff.mp hemit).2
    | _ => exact hemit
  · cases kind <;> cases site <;> cases h
    case neg.method.inInterface => exact absurd ⟨rfl, rfl⟩ hmethod
    all_goals
      cases m <;> first | exact hemit | exact without_eq_emit_of_le hle hemit

end ModifierRule

namespace Subject

section Judged

variable {s : Subject} {r r' : ModifierSet} {a : AcceptedModifiers}

/-- Sets with the same modifiers are judged alike. -/
theorem judge_eq_of_has_eq (s : Subject) (h : r.has = r'.has) : s.judge r = s.judge r' := by
  unfold judge
  cases hrule : ModifierRule.find? s.kind s.site with
  | none => rfl
  | some rule =>
    have hverdicts := ModifierRule.eq_of_has_eq hrule h
    simp only [requireAbstractable, withVerdict, emitted, isDefaultMethod, h, hverdicts]

/-- Sets with the same modifiers are reported alike. -/
theorem report_eq_of_has_eq (s : Subject) (h : r.has = r'.has) (sink : List String) :
    s.report r sink = s.report r' sink := by
  unfold report
  rw [s.judge_eq_of_has_eq h]

/-- What has a verdict is what is asked for and given this verdict by the rule. -/
theorem mem_withVerdict_iff {rule : ModifierRule} {v : Verdict} {m : Modifier} :
    m ∈ withVerdict rule r v ↔ r.has m = true ∧ rule r m = v := by
  simp [withVerdict, List.mem_filter, Modifier.mem_canonicalOrder]

/-- What is written is in canonical order. -/
theorem emitted_sublist (h : s.judge r = .ok a) : a.emitted.Sublist Modifier.canonicalOrder := by
  rw [judge_eq_ok_iff] at h
  obtain ⟨rule, -, -, -, -, rfl⟩ := h
  exact List.filter_sublist

/-- What is redundant is in canonical order. -/
theorem redundant_sublist (h : s.judge r = .ok a) :
    a.redundant.Sublist Modifier.canonicalOrder := by
  rw [judge_eq_ok_iff] at h
  obtain ⟨rule, -, -, -, -, rfl⟩ := h
  exact List.filter_sublist

/-- An accepted modifier is written or redundant, and not both. -/
theorem nodup_written_redundant (h : s.judge r = .ok a) : (a.emitted ++ a.redundant).Nodup := by
  have horder : Modifier.canonicalOrder.Nodup :=
    List.Nodup.of_map _ Modifier.nodup_words_canonicalOrder
  refine List.nodup_append.mpr
    ⟨(emitted_sublist h).nodup horder, (redundant_sublist h).nodup horder, ?_⟩
  rw [judge_eq_ok_iff] at h
  obtain ⟨rule, -, -, -, -, rfl⟩ := h
  rintro x hwritten _ hredundant rfl
  obtain ⟨hasked, hverdict⟩ := mem_withVerdict_iff.mp hredundant
  have hdefault : x ≠ .default := by
    rintro rfl
    cases hasked
  rw [((mem_emitted_iff hdefault).mp hwritten).2] at hverdict
  cases hverdict

/-- The bits of an accepted request are those of the modifiers that are written or redundant, each
of them once. -/
theorem bits_perm_of_judge {m : Int} (h : s.judge (.ofInt m) = .ok a) :
    ((a.emitted ++ a.redundant).filterMap Modifier.bit?).Perm
      ((List.range 12).filter fun k => (m % 4096).toNat.testBit k) := by
  have hbits : ((a.emitted ++ a.redundant).filterMap Modifier.bit?).Nodup :=
    (nodup_written_redundant h).filterMap fun _ _ _ hx hy => Modifier.bit?_injective hx hy
  -- neither list repeats a bit, so it is enough that they hold the same ones
  refine (List.perm_ext_iff_of_nodup hbits (List.nodup_range.filter _)).mpr fun k => ?_
  rw [judge_eq_ok_iff] at h
  obtain ⟨rule, -, -, -, hlegal, rfl⟩ := h
  rw [List.mem_filterMap, List.mem_filter, List.mem_range]
  constructor
  · rintro ⟨x, hx, hbit⟩
    refine ⟨Modifier.bit?_lt hbit, ?_⟩
    rw [← ModifierSet.has_ofInt hbit]
    rcases List.mem_append.mp hx with hx | hx
    · have hdefault : x ≠ .default := by
        rintro rfl
        cases hbit
      exact ((mem_emitted_iff hdefault).mp hx).1
    · exact (mem_withVerdict_iff.mp hx).1
  · rintro ⟨hk, hset⟩
    obtain ⟨x, hbit⟩ := Modifier.exists_bit?_eq hk
    refine ⟨x, ?_, hbit⟩
    rw [← ModifierSet.has_ofInt hbit] at hset
    have hdefault : x ≠ .default := by
      rintro rfl
      cases hbit
    rw [List.mem_append, mem_emitted_iff hdefault, mem_withVerdict_iff]
    cases hverdict : rule (.ofInt m) x with
    | emit => exact .inl ⟨hset, rfl⟩
    | redundant => exact .inr ⟨hset, rfl⟩
    | illegal => exact absurd hverdict (hlegal x hset)

/-- Asking for nothing but what is written gives the same again, and nothing is redundant. -/
theorem judge_of_written (h : s.judge r = .ok a)
    (hr' : ∀ m, m ≠ .default → (r'.has m = true ↔ m ∈ a.emitted)) :
    s.judge r' = .ok ⟨a.emitted, []⟩ := by
  rw [judge_eq_ok_iff] at h
  obtain ⟨rule, hrule, haccess, habstract, -, rfl⟩ := h
  -- asked for again is what was asked for before and was to be written
  have hwritten : ∀ m, r'.has m = (r.has m && rule r m == .emit) := by
    intro m
    by_cases hdefault : m = .default
    · rw [hdefault]
      rfl
    · rw [Bool.eq_iff_iff, hr' m hdefault, mem_emitted_iff hdefault, Bool.and_eq_true, beq_iff_eq]
  have hle : ∀ m, r'.has m = true → r.has m = true := by
    intro m hm
    rw [hwritten, Bool.and_eq_true] at hm
    exact hm.1
  have hemit : ∀ m, r'.has m = true → rule r' m = .emit :=
    fun m hm => ModifierRule.eq_emit_of_written hrule hwritten hm
  -- of what is asked for only `static` matters here, and in an interface it is always written
  have hdefault : s.isDefaultMethod r' = s.isDefaultMethod r := by
    unfold isDefaultMethod
    by_cases hmethod : s.kind = .method ∧ s.site = .inInterface
    · rw [hmethod.1, hmethod.2] at hrule
      obtain rfl := Option.some.inj hrule
      have hstatic : r'.has .static = r.has .static := by
        rw [hwritten]
        exact Bool.and_true _
      rw [hstatic]
    · rw [Bool.eq_iff_iff]
      simp only [Bool.and_eq_true, beq_iff_eq]
      constructor
      · rintro ⟨⟨hkind, -⟩, -⟩
        exact absurd hkind hmethod
      · rintro ⟨⟨hkind, -⟩, -⟩
        exact absurd hkind hmethod
  have hsame : s.emitted rule r' = s.emitted rule r := by
    apply List.filter_congr
    intro m _
    rw [hdefault]
    split
    · rfl
    · rw [Bool.eq_iff_iff, ← hwritten, Bool.and_eq_true, beq_iff_eq]
      exact and_iff_left_of_imp (hemit m)
  have hnone : withVerdict rule r' .redundant = [] := by
    refine List.eq_nil_iff_forall_not_mem.mpr fun m hm => ?_
    obtain ⟨hasked, hverdict⟩ := mem_withVerdict_iff.mp hm
    rw [hemit m hasked] at hverdict
    cases hverdict
  rw [judge_eq_ok_iff]
  refine ⟨rule, hrule, ?_, ?_, ?_, ?_⟩
  · exact (List.monotone_filter_right _ hle).length_le.trans haccess
  · intro hkind hasked
    exact habstract hkind (hle _ hasked)
  · intro m hasked hillegal
    rw [hemit m hasked] at hillegal
    cases hillegal
  · rw [hsame, hnone]

end Judged

/-- A warning about a redundant modifier quotes its keyword first. -/
theorem firstQuoted_redundancy (s : Subject) (m : Modifier) :
    Text.firstQuoted (s.redundancy m) = m.word := by
  unfold Text.firstQuoted redundancy
  simp only [String.toList_append]
  cases m <;> rfl

/-- What judging a request leaves behind depends on the last twelve bits of its number.  A refused
request leaves nothing.  Of an accepted one the keywords of the text, `default` apart, and those
that the new warnings name list the bits that are set, each once and both in canonical order; the
warnings come after those collected before, and all of them are logged.  Asking for just what is
written gives the same text without a warning. -/
theorem report_accounts (s : Subject) (m : Int) :
    (∀ sink, s.report (.ofInt m) sink = s.report (.ofInt (m % 4096)) sink) ∧
      ((∃ e, ∀ sink, s.report (.ofInt m) sink = ⟨.error e, sink, []⟩) ∨
        ∃ (written redundant : List Modifier) (reported : List String),
          (∀ sink, s.report (.ofInt m) sink =
            ⟨.ok written, sink ++ reported, Log.ofWarnings reported⟩) ∧
          reported = redundant.map s.redundancy ∧
          Text.wordTexts (modifierText written) = written.map Modifier.word ∧
          reported.map Text.firstQuoted = redundant.map Modifier.word ∧
          written.Sublist Modifier.canonicalOrder ∧ redundant.Sublist Modifier.canonicalOrder ∧
          ((written ++ redundant).filterMap Modifier.bit?).Perm
            ((List.range 12).filter fun k => (m % 4096).toNat.testBit k) ∧
          ∀ sink, s.report (.ofInt (Modifier.request written)) sink = ⟨.ok written, sink, []⟩) := by
  refine ⟨s.report_eq_of_has_eq (ModifierSet.has_ofInt_mod m).symm, ?_⟩
  cases hjudge : s.judge (.ofInt m) with
  | error e =>
    left
    refine ⟨e, fun sink => ?_⟩
    unfold report
    rw [hjudge]
  | ok a =>
    right
    have hagain : s.judge (.ofInt (Modifier.request a.emitted)) = .ok ⟨a.emitted, []⟩ :=
      judge_of_written hjudge fun x hx => ModifierSet.has_ofInt_request hx
    refine ⟨a.emitted, a.redundant, s.warnings a, ?reported, rfl, wordTexts_modifierText _, ?named,
      emitted_sublist hjudge, redundant_sublist hjudge, bits_perm_of_judge hjudge, ?again⟩
    case reported =>
      intro sink
      unfold report
      rw [hjudge]
    case named =>
      rw [warnings, List.map_map]
      exact List.map_congr_left fun x _ => s.firstQuoted_redundancy x
    case again =>
      intro sink
      unfold report
      rw [hagain]
      simp only [warnings, List.map_nil, List.append_nil, Log.ofWarnings]

end Subject

end JavaScribe
