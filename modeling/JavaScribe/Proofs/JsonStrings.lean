import JavaScribe.Json.Parser
import JavaScribe.Json.Printer

/-!
# Strings in JSON texts

A text that is written as a JSON string is read back: every character, in whatever way it is
escaped, gives the one code unit that it has, and since no character is a surrogate, no two of
these code units are taken for a pair.
-/

set_option autoImplicit false

namespace JavaScribe.Json

/-- A hexadecimal digit is read back. -/
theorem hexValue?_digitChar {n : Nat} (h : n < 16) : hexValue? n.digitChar = some n := by
  have hall : ∀ m < 16, hexValue? (Nat.digitChar m) = some m := by decide
  exact hall n h

/-- A code unit that is written with four hexadecimal digits is read back. -/
theorem readUnits_hexDigits {n : Nat} (h : n < 0x10000) (rest : List Char) :
    readUnits ('\\' :: 'u' :: (Text.hexDigits 4 n ++ rest)) =
      (readUnits rest).map fun r => (n :: r.1, r.2) := by
  have hdigits : Text.hexDigits 4 n = [Nat.digitChar (n / 4096 % 16), Nat.digitChar (n / 256 % 16),
      Nat.digitChar (n / 16 % 16), Nat.digitChar (n % 16)] := by
    simp [Text.hexDigits, Nat.div_div_eq_div_mul]
  have hvalue : ((n / 4096 % 16 * 16 + n / 256 % 16) * 16 + n / 16 % 16) * 16 + n % 16 = n := by
    omega
  have hunit : unit? (Nat.digitChar (n / 4096 % 16)) (Nat.digitChar (n / 256 % 16))
      (Nat.digitChar (n / 16 % 16)) (Nat.digitChar (n % 16)) = some n := by
    have hlt : ∀ m, m % 16 < 16 := fun m => Nat.mod_lt m (by decide)
    simp only [unit?, hexValue?_digitChar (hlt _), Option.bind_eq_bind, Option.bind_some,
      Option.pure_def, hvalue]
  simp only [hdigits, List.cons_append, List.nil_append, readUnits, hunit]
  cases readUnits rest <;> rfl

/-- A character with an escape of its own is read back. -/
theorem readUnits_escaped {c e : Char} (h : escaped? c = some e) (rest : List Char) :
    readUnits ('\\' :: c :: rest) = (readUnits rest).map fun r => (e.toNat :: r.1, r.2) := by
  have hu : c ≠ 'u' := by
    rintro rfl
    have hnone : escaped? 'u' = none := by decide
    rw [hnone] at h
    cases h
  rw [readUnits, h]
  · cases readUnits rest <;> rfl
  · intro _ _ _ _ _ hc
    exact absurd hc hu

/-- A character that is written as itself is read back. -/
theorem readUnits_plain {c : Char} (hquote : c ≠ Text.doubleQuote) (hslash : c ≠ '\\')
    (hcontrol : ¬c.toNat < 0x20) (rest : List Char) :
    readUnits (c :: rest) = (readUnits rest).map fun r => (c.toNat :: r.1, r.2) := by
  rw [readUnits, if_neg hquote, if_neg (by simp [hslash, hcontrol])]
  all_goals simp [hslash]

/-- However a character is escaped, its code unit is read. -/
theorem readUnits_escapeChar (c : Char) (rest : List Char) :
    readUnits (escapeChar c ++ rest) = (readUnits rest).map fun r => (c.toNat :: r.1, r.2) := by
  unfold escapeChar
  split
  · rename_i h
    exact readUnits_escaped (by rcases h with rfl | rfl <;> rfl) rest
  split
  · subst_vars
    exact readUnits_escaped rfl rest
  split
  · subst_vars
    exact readUnits_escaped rfl rest
  split
  · subst_vars
    exact readUnits_escaped rfl rest
  split
  · subst_vars
    exact readUnits_escaped rfl rest
  split
  · subst_vars
    exact readUnits_escaped rfl rest
  split
  · rename_i h
    exact readUnits_hexDigits (by omega) rest
  · rename_i hescape _ _ _ _ _ hcontrol
    rw [not_or] at hescape
    exact readUnits_plain hescape.1 hescape.2 hcontrol rest

/-- A text ends at a quotation mark. -/
theorem readUnits_closing (rest : List Char) :
    readUnits (Text.doubleQuote :: rest) = some ([], rest) := by
  have hslash : Text.doubleQuote ≠ '\\' := by decide
  rw [readUnits, if_pos rfl]
  all_goals simp [hslash]

/-- The characters of a written text are read back. -/
theorem readUnits_flatMap_escapeChar (cs rest : List Char) :
    readUnits (cs.flatMap escapeChar ++ Text.doubleQuote :: rest) =
      some (cs.map Char.toNat, rest) := by
  induction cs with
  | nil => exact readUnits_closing rest
  | cons c cs ih =>
    rw [List.flatMap_cons, List.append_assoc, readUnits_escapeChar, ih]
    rfl

/-- No character is half of a pair. -/
theorem not_surrogate (c : Char) : ¬(0xD800 ≤ c.toNat ∧ c.toNat < 0xE000) := by
  have hvalid : c.toNat < 0xD800 ∨ (0xDFFF < c.toNat ∧ c.toNat < 0x110000) := c.valid
  omega

/-- The code points of characters are decoded as the characters. -/
theorem decodeUnits_map_toNat (cs : List Char) : decodeUnits (cs.map Char.toNat) = cs := by
  induction cs with
  | nil => rfl
  | cons c cs ih =>
    cases cs with
    | nil => simp [decodeUnits, Char.ofNat_toNat]
    | cons d cs =>
      -- two units are only taken for a pair if the first one is a surrogate
      have hpair :
          ¬(0xD800 ≤ c.toNat ∧ c.toNat < 0xDC00 ∧ 0xDC00 ≤ d.toNat ∧ d.toNat < 0xE000) := by
        have hc := not_surrogate c
        omega
      simp only [List.map_cons] at ih
      simp only [List.map_cons, decodeUnits, if_neg hpair, ih, Char.ofNat_toNat]

/-- A written text is read back up to its closing quotation mark. -/
theorem readString_escaped (s : String) (rest : List Char) :
    readString (s.toList.flatMap escapeChar ++ Text.doubleQuote :: rest) = .ok (s, rest) := by
  rw [readString, readUnits_flatMap_escapeChar]
  simp only [decodeUnits_map_toNat, String.ofList_toList]

end JavaScribe.Json
