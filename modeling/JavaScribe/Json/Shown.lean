import JavaScribe.Json.Basic
import JavaScribe.Floating.Shortest
import JavaScribe.Text.Quoted

/-!
# Values in running text

Messages and templates show a value for people to read.  A text stands there as it is; inside
another value it is put in quotes.  The truth values and nothing are capitalised words.
-/

set_option autoImplicit false

namespace JavaScribe.Json

mutual
/-- A value as it stands inside another one. -/
def quoted : Json → String
  | null => "None"
  | bool b => if b then "True" else "False"
  | int n => toString n
  | real x => x.text "inf" "nan"
  | string s => Text.quote s
  | array items => "[" ++ ", ".intercalate (quotedItems items) ++ "]"
  | object fields => "\x7b" ++ ", ".intercalate (quotedFields fields) ++ "\x7d"

/-- The quoted forms of the items of an array. -/
def quotedItems : List Json → List String
  | [] => []
  | item :: items => quoted item :: quotedItems items

/-- The fields of an object with quoted keys and values. -/
def quotedFields : List (String × Json) → List String
  | [] => []
  | (key, value) :: fields => (Text.quote key ++ ": " ++ quoted value) :: quotedFields fields
end

/-- A value on its own. -/
def shown : Json → String
  | string s => s
  | j => quoted j

end JavaScribe.Json
