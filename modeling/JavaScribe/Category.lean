import JavaScribe.Text.Numeral
import JavaScribe.Text.Quoted

/-!
# Categories

Members are gathered into sections by a tag.  A tag is a numeral, an underscore and the title of
the section; the numeral gives the section its place.  The empty tag is the untitled category that
members have by default.  Tags are compared as texts, so numerals should have equally many digits.
-/

set_option autoImplicit false

namespace JavaScribe

/-- A category of members. -/
structure Category where
  tag : String
  /-- The number before the underscore, if there is a tag at all. -/
  priority : Option Nat
  title : String
deriving DecidableEq, Repr

/-- Why a tag was refused. -/
inductive CategoryError where
  | malformed (tag : String)
  | overlong (numeral : Text.OverlongNumeral)
deriving DecidableEq, Repr

/-- The message of an error in the tag of a category. -/
def CategoryError.message : CategoryError → String
  | .malformed tag =>
    "Category " ++ Text.quote tag ++ " does not match the pattern '<digits>_<title>'"
  | .overlong numeral => numeral.message

namespace Category

/-- The default category, which has neither a number nor a title. -/
def untitled : Category := ⟨"", none, ""⟩

/-- Splits a tag into its numeral and its title, which may not hold a newline. -/
def splitTag (cs : List Char) : Option (List Char × List Char) :=
  match cs.span Char.isDigit with
  | ([], _) => none
  | (digits, '_' :: title) => if title.contains '\n' then none else some (digits, title)
  | _ => none

/-- Reads a tag. -/
def parse (tag : String) : Except CategoryError Category :=
  if tag.isEmpty then .ok untitled
  else
    match splitTag tag.toList with
    | none => .error (.malformed tag)
    | some (digits, title) =>
      match Text.readNumeral digits with
      | .ok priority => .ok ⟨tag, some priority, String.ofList title⟩
      | .error e => .error (.overlong e)

end Category

end JavaScribe
