import JavaScribe.Json.Basic
import JavaScribe.Floating.Shortest
import JavaScribe.Text.Quoted

/-!
# Writing JSON

There are two layouts.  The block layout puts every item and every field on a line of its own,
indented by two spaces a level; an empty collection stays on its line.  The compact layout has no
white space at all.  Both escape the double quote, the backslash and the control characters, and
write every other character as it is.
-/

set_option autoImplicit false

namespace JavaScribe.Json

/-- A character as it stands inside a JSON string. -/
def escapeChar (c : Char) : List Char :=
  if c = Text.doubleQuote ∨ c = '\\' then ['\\', c]
  else if c = '\n' then ['\\', 'n']
  else if c = '\r' then ['\\', 'r']
  else if c = '\t' then ['\\', 't']
  else if c = '\x0c' then ['\\', 'f']
  else if c = '\x08' then ['\\', 'b']
  else if c.toNat < 0x20 then ['\\', 'u'] ++ Text.hexDigits 4 c.toNat
  else [c]

/-- A JSON string, in its quotes. -/
def stringChars (s : String) : List Char :=
  Text.doubleQuote :: s.toList.flatMap escapeChar ++ [Text.doubleQuote]

/-- A floating-point number, with words for what is no number. -/
def realText (x : Floating) : String := x.text "Infinity" "NaN"

/-- A new line at a depth, indented by two blanks for each level. -/
def newlineAt (depth : Nat) : List Char := '\n' :: List.replicate (2 * depth) ' '

mutual
/-- The block layout of a value that starts at the given depth. -/
def blockChars (depth : Nat) : Json → List Char
  | null => "null".toList
  | bool b => (if b then "true" else "false").toList
  | int n => (toString n).toList
  | real x => (realText x).toList
  | string s => stringChars s
  | array [] => ['[', ']']
  | array items => '[' :: blockItems (depth + 1) items ++ newlineAt depth ++ [']']
  | object [] => ['\x7b', '\x7d']
  | object fields => '\x7b' :: blockFields (depth + 1) fields ++ newlineAt depth ++ ['\x7d']

/-- The items of a collection, each on a line of its own. -/
def blockItems (depth : Nat) : List Json → List Char
  | [] => []
  | [item] => newlineAt depth ++ blockChars depth item
  | item :: next :: items =>
    newlineAt depth ++ blockChars depth item ++ ',' :: blockItems depth (next :: items)

/-- The fields of an object, each on a line of its own. -/
def blockFields (depth : Nat) : List (String × Json) → List Char
  | [] => []
  | [(key, value)] => newlineAt depth ++ stringChars key ++ [':', ' '] ++ blockChars depth value
  | (key, value) :: next :: fields =>
    newlineAt depth ++ stringChars key ++ [':', ' '] ++ blockChars depth value ++
      ',' :: blockFields depth (next :: fields)
end

/-- A value written over several lines. -/
def block (j : Json) : String := String.ofList (blockChars 0 j)

mutual
/-- The compact layout of a value. -/
def compact : Json → String
  | null => "null"
  | bool b => if b then "true" else "false"
  | int n => toString n
  | real x => realText x
  | string s => String.ofList (stringChars s)
  | array items => "[" ++ ",".intercalate (compactItems items) ++ "]"
  | object fields => "\x7b" ++ ",".intercalate (compactFields fields) ++ "\x7d"

/-- The items of an array, each of them written on one line. -/
def compactItems : List Json → List String
  | [] => []
  | item :: items => compact item :: compactItems items

/-- The fields of an object, each of them written on one line. -/
def compactFields : List (String × Json) → List String
  | [] => []
  | (key, value) :: fields =>
    (String.ofList (stringChars key) ++ ":" ++ compact value) :: compactFields fields
end

end JavaScribe.Json
