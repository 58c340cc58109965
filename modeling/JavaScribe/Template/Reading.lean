import JavaScribe.Template.Token

/-!
# Reading tokens

What stands between braces is read from left to right, with a look at no more than the next two
tokens.  A token is passed only after the one behind it could be read, so a source that cannot be
read further is a fault already at the last token in front of that place.
-/

set_option autoImplicit false

namespace JavaScribe.Template

/-- Reads something from the tokens that are left. -/
abbrev Reading := StateT (List Token) (Except TemplateFault)

namespace Reading

/-- The token that comes next; after the last one the source ends. -/
def next : Reading Token := fun ts => .ok (ts.headD .sourceEnd, ts)

/-- Passes over a token, and meets the fault that may come behind it. -/
def pass : Reading Unit := fun ts =>
  match ts.tail with
  | .fault f :: _ => .error f
  | ts => .ok ((), ts)

/-- The token after the next one. -/
def second : Reading Token := fun ts =>
  match ts.tail with
  | .fault f :: _ => .error f
  | more => .ok (more.headD .sourceEnd, ts)

/-- Passes the next token if it is the given one, and tells whether it is. -/
def accept (t : Token) : Reading Bool := do
  if (← next) = t then
    pass
    return true
  else return false

/-- Passes a token that has to be the given one. -/
def expect (t : Token) : Reading Unit := do
  let found ← next
  if found = t then pass else throw (found.insteadOf t.shown)

/-- Reads a name. -/
def word : Reading String := do
  match ← next with
  | .word name =>
    pass
    return name
  | found => throw (found.insteadOf "name")

/-- Repeats a step that tells whether to go on, so many times at most. -/
def repeatWithin {α : Type} (step : α → Reading (α × Bool)) : Nat → α → Reading α
  | 0, a => pure a
  | bound + 1, a => do
    match ← step a with
    | (a, true) => repeatWithin step bound a
    | (a, false) => return a

/-- Repeats a step as long as it tells to go on, which it does only after passing a token. -/
def repeating {α : Type} (step : α → Reading (α × Bool)) (a : α) : Reading α := fun ts =>
  repeatWithin step (ts.length + 1) a ts

/-- Passes the token as often as it comes, and tells whether it comes. -/
def acceptAll (t : Token) : Reading Bool :=
  repeating (fun any => do if ← accept t then return (true, true) else return (any, false)) false

/-- Reads items with commas between them up to the sign that closes them, which is passed.  An item
is read in view of those before it.  A comma may stand behind the last one if that is allowed. -/
def listed {α : Type} (closer : String) (lastComma : Bool) (item : List α → Reading α) :
    Reading (List α) := do
  let step (items : List α) : Reading (List α × Bool) := do
    if (← next) = .sign closer then return (items, false)
    unless items.isEmpty do
      expect (.sign ",")
    if lastComma && (← next) = .sign closer then return (items, false)
    return (items ++ [← item items], true)
  let items ← repeating step []
  expect (.sign closer)
  return items

/-- Reads all of the tokens of a value or a block tag. -/
def ofTokens {α : Type} (r : Reading α) (ts : List Token) : Except TemplateFault α :=
  match ts with
  | .fault f :: _ => .error f
  | ts => (r ts).map (·.1)

end Reading

end JavaScribe.Template
