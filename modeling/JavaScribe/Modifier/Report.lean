import JavaScribe.Modifier.Legality
import JavaScribe.Log

/-!
# Reports on modifiers

Redundant modifiers do no harm, and a declaration that has some is accepted with a warning for
each.  Warnings are collected over many declarations and logged as well.  They are reported only
for an accepted declaration.
-/

set_option autoImplicit false

namespace JavaScribe

/-- What judging a request leaves behind. -/
structure ModifierReport where
  /-- The modifiers that are written, if the request is accepted. -/
  outcome : Except ModifierError (List Modifier)
  warnings : List String
  log : Log

namespace Subject

/-- The warning about a modifier that goes without saying. -/
def redundancy (s : Subject) (m : Modifier) : String :=
  "Redundant modifier \"" ++ m.word ++ "\" on " ++ s.text

/-- The warnings about all modifiers that go without saying. -/
def warnings (s : Subject) (a : AcceptedModifiers) : List String := a.redundant.map s.redundancy

/-- Judges a request and adds its warnings to those collected before. -/
def report (s : Subject) (requested : ModifierSet) (collected : List String) : ModifierReport :=
  match s.judge requested with
  | .ok a => ⟨.ok a.emitted, collected ++ s.warnings a, Log.ofWarnings (s.warnings a)⟩
  | .error e => ⟨.error e, collected, []⟩

end Subject

end JavaScribe
