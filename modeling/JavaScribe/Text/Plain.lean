import JavaScribe.Text.Mark
import JavaScribe.Text.Variant

/-!
# Plain forms

Two names have the same letters if they differ only in the variants of characters that they are
written with.  This is decided on their plain forms, in which every variant is replaced by what it
stands for and the marks of each letter are put in order.
-/

set_option autoImplicit false

namespace JavaScribe.Text

/-- The first syllable of the Korean script. -/
def firstSyllable : Nat := 0xAC00

/-- The last syllable of the Korean script. -/
def lastSyllable : Nat := 0xD7A3

/-- The letters of a syllable of the Korean script.  The syllables are arranged by their first
letter, then by their vowel, then by their last letter, which may be missing. -/
def syllableLetters (n : Nat) : List Char :=
  let i := n - firstSyllable
  [Char.ofNat (0x1100 + i / 588), Char.ofNat (0x1161 + i % 588 / 28)] ++
    if i % 28 = 0 then [] else [Char.ofNat (0x11A7 + i % 28)]

/-- What a character stands for. -/
def plainChars (c : Char) : List Char :=
  let n := c.toNat
  if n < 0x80 then [c]
  else if firstSyllable ≤ n ∧ n ≤ lastSyllable then syllableLetters n
  else (variantRows.findSome? fun r => r.form? n).getD [c]

/-- The plain form of a text. -/
def plainForm (cs : List Char) : List Char := orderMarks (cs.flatMap plainChars)

/-- Whether two names have the same letters. -/
def sameLetters (a b : String) : Bool := plainForm a.toList == plainForm b.toList

/-- A name has the same letters as itself. -/
theorem sameLetters_self (a : String) : sameLetters a a = true := by simp [sameLetters]

/-- Two names have the same letters in either order. -/
theorem sameLetters_comm (a b : String) : sameLetters a b = sameLetters b a := by
  simp [sameLetters, Bool.beq_comm]

end JavaScribe.Text
