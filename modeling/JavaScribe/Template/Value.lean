import JavaScribe.Template.Fault
import JavaScribe.Text.Line
import JavaScribe.Json.Entries
import JavaScribe.Json.Shown

/-!
# Values in templates

A name in a template stands for a value, mostly a text or a list of texts.  A value is inserted as
it is shown and never read as a template itself; one that is not empty lets a block be written, and
one with items lets it be written for each of them.

A few names mean something without being told: the words for the truth values and for nothing, and
the tools that come with the template language.
-/

set_option autoImplicit false

namespace JavaScribe

/-- What stands for something when a template is rendered. -/
inductive Value where
  | data (j : Json)
  /-- Values side by side. -/
  | tuple (items : List Json)
  /-- Something that is only shown. -/
  | symbol (shown : String)
  /-- The template itself, by its name. -/
  | template (name : String)
deriving DecidableEq

namespace Value

/-- A text as a value. -/
def text (s : String) : Value := data (.string s)

/-- Texts as a value. -/
def texts (items : List String) : Value := data (.array (items.map .string))

/-- Whether a block on the value is left out. -/
def isEmpty : Value → Bool
  | data j => j.isFalsy
  | tuple items => items.isEmpty
  | symbol _ => false
  | template _ => false

/-- The value as inserted text.  A comma shows that a single value stands for several. -/
def shown : Value → String
  | data j => j.shown
  | tuple [j] => "(" ++ j.quoted ++ ",)"
  | tuple items => "(" ++ ", ".intercalate (Json.quotedItems items) ++ ")"
  | symbol shown => shown
  | template name => "<TemplateReference " ++ Text.quote name ++ ">"

/-- The items that a block goes through; those of a text are its characters. -/
def items : Value → Except TemplateFault (List Json)
  | data j =>
    match j.parts? with
    | some items => .ok items
    | none => .error .noItems
  | tuple items => .ok items
  | symbol _ => .error .noItems
  | template _ => .error .itemsOfTemplate

/-- The words that stand for themselves everywhere. -/
def constants : List (String × Value) :=
  [("true", data (.bool true)), ("True", data (.bool true)), ("false", data (.bool false)),
    ("False", data (.bool false)), ("none", data .null), ("None", data .null)]

/-- The tools of the template language, which a context may hide. -/
def tools : List (String × Value) :=
  [("range", symbol "<class 'range'>"), ("dict", symbol "<class 'dict'>"),
    ("cycler", symbol "<class 'jinja2.utils.Cycler'>"),
    ("joiner", symbol "<class 'jinja2.utils.Joiner'>"),
    ("namespace", symbol "<class 'jinja2.utils.Namespace'>"),
    ("lipsum", symbol "<function generate_lorem_ipsum>")]

/-- What a name shows that was given a meaning and has lost it. -/
def missing : Value := symbol "missing"

/-- The state of a block that has come to an item, which counts from one. -/
def progress (item count : Nat) : Value :=
  symbol ("<LoopContext " ++ toString item ++ "/" ++ toString count ++ ">")

end Value

/-- The text as a block comment.  A text that is a block comment already stays as it is. -/
def blockComment (s : String) : String :=
  let cs := Text.trim Text.isNewline s.toList
  if ['/', '*'].isPrefixOf (Text.trimStart Text.isBlank cs) then String.ofList cs
  else
    Text.unlines ("/*" ::
      (Text.splitLines cs).map (fun l =>
        String.ofList (Text.trimEnd Text.isBlank (' ' :: '*' :: ' ' :: l))) ++ [" */"])

end JavaScribe
