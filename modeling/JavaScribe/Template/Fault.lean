import JavaScribe.Text.Quoted

/-!
# Faults of templates

A template can be faulty in itself, or be used with names that mean nothing or not enough.  Every
fault has a message, which names the template.

What stands in the source is called in messages by the words that readers of templates know: a sign
or a word by itself, a number or a quotation by its kind, and an end by what ends there.
-/

set_option autoImplicit false

namespace JavaScribe

/-- The kinds of blocks. -/
inductive BlockKind where
  | optional
  | each
deriving DecidableEq, Repr

namespace BlockKind

/-- The word that a block is opened with. -/
def opener : BlockKind → String
  | optional => "if"
  | each => "for"

/-- The word that a block is closed with. -/
def closer : BlockKind → String
  | optional => "endif"
  | each => "endfor"

/-- The words that may follow the body of a block in the full template language. -/
def followers : BlockKind → List String
  | optional => ["elif", "else", "endif"]
  | each => ["endfor", "else"]

/-- What is said of the block that a fault lies in. -/
def context (k : BlockKind) : String :=
  " Jinja was looking for the following tags: " ++
    " or ".intercalate (k.followers.map Text.quote) ++
    ". The innermost block that needs to be closed is " ++ Text.quote k.opener ++ "."

end BlockKind

/-- Why a template could not be rendered. -/
inductive TemplateFault where
  | missingTemplate
  /-- The template asks for something that is understood but cannot be done. -/
  | unsupported
  /-- A character that has no meaning stands at a position of the source. -/
  | strayCharacter (c : Char) (position : Nat)
  /-- A word has a character that stands in no name. -/
  | brokenName
  /-- A bracket is closed by the sign of another one. -/
  | mismatchedBracket (found wanted : String)
  | unclosedComment
  /-- Something stands where it has no meaning. -/
  | unexpected (found : String)
  /-- Something stands where a value is needed. -/
  | noValue (found : String)
  /-- Something stands where something else is needed. -/
  | expected (wanted found : String)
  /-- The source ends where something is needed. -/
  | unfinished (wanted : String)
  /-- The arguments of a call come in an order that is not allowed. -/
  | misplacedArgument
  /-- A point is followed by neither a name nor a number. -/
  | noMember
  /-- A test is followed by another one. -/
  | chainedTest
  /-- The items of a block are to be called by something that is no name. -/
  | unassignable (kind : String)
  /-- The items of a block are to be called by the word for the state of the block. -/
  | progressItem
  | noTagName
  /-- A block tag starts with a word that has no meaning there. -/
  | unknownTag (name : String) (inside : Option BlockKind)
  | unclosed (kind : BlockKind)
  | undefinedName (name : String)
  /-- A block goes through a value without items. -/
  | noItems
  /-- A block goes through the template itself. -/
  | itemsOfTemplate
  /-- The context gives a meaning to the word for the template itself. -/
  | reservedName
deriving DecidableEq, Repr

namespace TemplateFault

/-- Whether the fault lies in how the template is used, and not in the template. -/
def isMisuse : TemplateFault → Bool
  | noItems | itemsOfTemplate | reservedName => true
  | _ => false

/-- What is said of a fault in the template of a name. -/
def message (template : String) : TemplateFault → String
  | missingTemplate => template
  | unsupported => "the template asks for something that cannot be done"
  | strayCharacter c position =>
    "unexpected char " ++ Text.quote (String.singleton c) ++ " at " ++ toString position
  | brokenName => "Invalid character in identifier"
  | mismatchedBracket found wanted =>
    "unexpected " ++ Text.quote found ++ ", expected " ++ Text.quote wanted
  | unclosedComment => "Missing end of comment tag"
  | unexpected found => "unexpected " ++ Text.quote found
  | noValue found => "Expected an expression, got " ++ Text.quote found
  | expected wanted found => "expected token " ++ Text.quote wanted ++ ", got " ++ Text.quote found
  | unfinished wanted => "unexpected end of template, expected " ++ Text.quote wanted ++ "."
  | misplacedArgument => "invalid syntax for function call expression"
  | noMember => "expected name or number"
  | chainedTest => "You cannot chain multiple tests with is"
  | unassignable kind => "can't assign to " ++ Text.quote kind
  | progressItem => "Can't assign to special loop variable in for-loop target"
  | noTagName => "tag name expected"
  | unknownTag name inside =>
    "Encountered unknown tag " ++ Text.quote name ++ "." ++ (inside.map BlockKind.context).getD ""
  | unclosed kind => "Unexpected end of template." ++ kind.context
  | undefinedName name => Text.quote name ++ " is undefined"
  | noItems => "a value has no items"
  | itemsOfTemplate => "the template itself has no items"
  | reservedName => "the context hides the template itself"

end TemplateFault

/-- A fault with the name of the template that has it. -/
structure TemplateError where
  template : String
  fault : TemplateFault
deriving DecidableEq, Repr

/-- The message of a template that could not be rendered. -/
def TemplateError.message (e : TemplateError) : String :=
  "Failed to render template " ++ e.template ++ ": " ++ e.fault.message e.template

end JavaScribe
