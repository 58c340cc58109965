import JavaScribe.Proofs.TidyLines
import JavaScribe.Source.Generator

/-!
# Line endings

A formatted text has its lines, freed of the white space at their ends, with the line ending of the
settings between them.  Read again, such a text has its lines at the newlines, so what an ending has
in front of its newline stands at the end of a line then.  If this is white space, such as a
carriage return, it is taken away when the text is formatted once more
(`Text.tidyLines_tidyLines_ending`).  So nothing is left of the first formatting but what the second
one would have done by itself, and the ending of a text or of a source file can be changed
afterwards (`Settings.format_format`, `Generator.outcome_render_withEnding`).
-/

set_option autoImplicit false

namespace JavaScribe

open Text

/-- The settings with another line ending. -/
def Settings.withEnding (s : Settings) (ending : String) : Settings :=
  { s with lineEnding := ending }

namespace Generator

/-- The generator with another line ending. -/
def withEnding (g : Generator) (ending : String) : Generator :=
  { g with settings := g.settings.withEnding ending }

/-- Only the formatting depends on the line ending. -/
theorem outcome_generate_withEnding (g : Generator) (ending : String) (t : Target) :
    ((g.withEnding ending).generate t).outcome = (g.generate t).outcome := by
  have harrange : (g.withEnding ending).settings.arrange = g.settings.arrange := rfl
  have htemplates : (g.withEnding ending).templates = g.templates := rfl
  rw [generate, generate, harrange, htemplates]
  split
  · cases g.templates.openLibrary <;> rfl
  · rfl

/-- A source file with another line ending is the one that there was, formatted again. -/
theorem outcome_render_withEnding (g : Generator) (h : IsLineEnding g.settings.lineEnding)
    (ending : String) (t : Target) :
    ((g.withEnding ending).render t).outcome =
      (g.render t).outcome.map (g.settings.withEnding ending).format := by
  have hgenerate := outcome_generate_withEnding g ending t
  have hformat : ∀ code, (g.settings.withEnding ending).format (g.settings.format code) =
      (g.settings.withEnding ending).format code :=
    fun code => tidyLines_tidyLines_ending h ending code
  show ((g.withEnding ending).generate t).outcome.map _ = ((g.generate t).outcome.map _).map _
  rw [hgenerate]
  cases (g.generate t).outcome with
  | error e => rfl
  | ok code => exact congrArg Except.ok (hformat code).symm

end Generator

namespace Settings

/-- Formatting takes up what an earlier formatting has done, be it with newlines alone or with
carriage returns in front of them, so the line ending can be changed without loss.  A formatted text
is the one with newlines alone that has its newlines replaced by the line ending; and the lines of
this one are those of the text, of which none has white space at its end any more. -/
theorem format_format (s₁ s₂ : Settings) (h : s₁.lineEnding = "\n" ∨ s₁.lineEnding = "\r\n")
    (code : String) :
    s₂.format (s₁.format code) = s₂.format code ∧
      s₁.format code = replaceNewlines s₁.lineEnding ((s₁.withEnding "\n").format code) ∧
      lines ((s₁.withEnding "\n").format code) = (lines code).map tidy ∧
      ∀ line ∈ lines ((s₁.withEnding "\n").format code), IsTidy line.toList := by
  have hending : IsLineEnding s₁.lineEnding := by
    rcases h with h | h
    · rw [h]
      exact isLineEnding_newline
    · rw [h]
      exact isLineEnding_carriageReturn
  refine ⟨?absorbed, ?replaced, ?trimmed, ?tidied⟩
  case absorbed => exact tidyLines_tidyLines_ending hending s₂.lineEnding code
  case replaced => exact tidyLines_eq_replaceNewlines s₁.lineEnding code
  case trimmed => exact lines_tidyLines code
  case tidied => exact fun line => isTidy_of_mem_lines_tidyLines

/-- Of a text with spaces and a tab at the ends of its lines, and with a carriage return that does
not stand at the end of one, the line ending is changed there and back. -/
theorem format_format_calls :
    let windows : Settings := ⟨4, false, "\r\n", 5, [], [], 160, .null⟩
    let unix := windows.withEnding "\n"
    let code := "a(); \n\t\r\n\rb();"
    windows.lineEnding = "\r\n" ∧ windows.format code = "a();\r\n\r\n\rb();" ∧
      unix.format (windows.format code) = "a();\n\n\rb();" ∧
      windows.format (unix.format (windows.format code)) = windows.format code := by
  intro windows unix code
  have hunix : unix.format code = "a();\n\n\rb();" := by decide +kernel
  obtain ⟨habsorbed, hreplaced, -⟩ := format_format windows unix (.inr rfl) code
  obtain ⟨hback, -⟩ := format_format unix windows (.inl rfl) code
  refine ⟨rfl, ?_, habsorbed.trans hunix, ?_⟩
  · have hlf : (windows.withEnding "\n").format code = "a();\n\n\rb();" := hunix
    rw [hreplaced, hlf]
    decide +kernel
  · rw [habsorbed, hback]

end Settings

end JavaScribe
