import JavaScribe.Template.Basic
import JavaScribe.Template.Reading

/-!
# Reading expressions

An expression is made of operands with operators between them.  An operand is a name, a constant or
something in brackets, with signs in front of it, and with members, calls, filters and tests behind
it.  A filter that makes a comment, names and constants give values; of all other expressions it is
only checked that they follow the rules of the template language.

The words `and`, `or`, `in`, `if`, `is` and `not` join operands where an operator can stand, and are
names where an operand has to stand; only in front of an operand of `and`, `or` or `if`, and of a
whole expression, `not` is a negation.

The readers of the parts of an expression are given the reader `e` of the expressions inside it.
-/

set_option autoImplicit false

namespace JavaScribe.Expr

/-- The data of constants, if all are such. -/
def data? : List Expr → Option (List Json)
  | [] => some []
  | .constant (.data j) :: es => (data? es).map (j :: ·)
  | _ => none

/-- The fields of constants with texts as keys, if all are such. -/
def fields? : List (Expr × Expr) → Option (Table Json)
  | [] => some []
  | (.constant (.data (.string key)), .constant (.data j)) :: es =>
    (fields? es).map fun more => Table.putAll (Table.put [] key j) more
  | _ => none

/-- The constant, if there is one. -/
def ofConstant (v : Option Value) : Expr := v.elim .unsupported .constant

/-- A tuple of expressions, which is only evaluated if all of them are constants. -/
def tuple (es : List Expr) : Expr := ofConstant ((data? es).map .tuple)

/-- A list of expressions, which is only evaluated if all of them are constants. -/
def list (es : List Expr) : Expr := ofConstant ((data? es).map fun js => .data (.array js))

/-- A dictionary of expressions, which is only evaluated if all of them are constants. -/
def dictionary (es : List (Expr × Expr)) : Expr :=
  ofConstant ((fields? es).map fun fs => .data (.object fs))

end JavaScribe.Expr

namespace JavaScribe.Template

open Reading

/-- Whether the token ends values side by side, so that none has to stand behind the last comma. -/
def endsTuple (t : Token) : Bool := t = .closing .value || t = .closing .tag || t = .sign ")"

/-- Reads an item, or several with commas between them.  There need be none inside parentheses. -/
def sequence (inParentheses : Bool) (item : Reading Expr) : Reading Expr := do
  let t ← next
  if endsTuple t then
    if inParentheses then return .tuple [] else throw (.noValue t.shown)
  let first ← item
  if (← next) ≠ .sign "," then return first
  let step (items : List Expr) : Reading (List Expr × Bool) := do
    if !(← accept (.sign ",")) || endsTuple (← next) then return (items, false)
    return (items ++ [← item], true)
  return .tuple (← repeating step [first])

/-! ## Operands -/

/-- Reads quotations in a row, which are one text.  Nothing is made of a backslash. -/
def quotations : Reading Expr := do
  let step (text : List Char) : Reading (List Char × Bool) := do
    match ← next with
    | .quotation more =>
      pass
      return (text ++ more, true)
    | _ => return (text, false)
  let text ← repeating step []
  return if text.contains '\\' then .unsupported else .constant (.text (String.ofList text))

/-- Reads a name, a constant or something in brackets. -/
def primary (e : Reading Expr) : Reading Expr := do
  match ← next with
  | .word name =>
    pass
    return (Value.constants.lookup name).elim (.name name) .constant
  | .integer n =>
    pass
    return .constant (.data (.int n))
  | .decimal x =>
    pass
    return .constant (.data (.real x))
  | .quotation _ => quotations
  | .sign "(" =>
    pass
    let v ← sequence true e
    expect (.sign ")")
    return v
  | .sign "[" =>
    pass
    return .list (← listed "]" true fun _ => e)
  | .sign "\x7b" =>
    pass
    let field : Reading (Expr × Expr) := do
      let key ← e
      expect (.sign ":")
      return (key, ← e)
    return .dictionary (← listed "\x7d" true fun _ => field)
  | t => throw (.unexpected t.shown)

/-- The ways to give an argument of a call. -/
inductive Argument where
  | plain
  | named
  | rest
  | namedRest
deriving DecidableEq, Repr

/-- The ways to give an argument that must not come before one that is given in a way. -/
def Argument.later : Argument → List Argument
  | plain => [named, rest, namedRest]
  | named => [namedRest]
  | rest => [rest, namedRest]
  | namedRest => [namedRest]

/-- Reads how an argument is given, in view of those before it. -/
def Argument.read (before : List Argument) : Reading Argument := do
  let way ← match ← next with
    | .sign "*" => pure rest
    | .sign "**" => pure namedRest
    | .word _ => do if (← second) = .sign "=" then pure named else pure plain
    | _ => pure plain
  if before.any way.later.contains then throw .misplacedArgument
  match way with
  | plain => pure ()
  | named =>
    pass
    pass
  | rest => pass
  | namedRest => pass
  return way

/-- Reads the arguments of a call, and tells whether there are any. -/
def arguments (e : Reading Expr) : Reading Bool := do
  expect (.sign "(")
  let argument (before : List Argument) : Reading Argument := do
    let way ← Argument.read before
    let _ ← e
    return way
  return !(← listed ")" true argument).isEmpty

/-- Reads a part of a subscript: an expression, or up to three with colons between them. -/
def subscript (e : Reading Expr) : Reading Unit := do
  let ends (t : Token) : Bool := t = .sign "]" || t = .sign ","
  if (← next) ≠ .sign ":" then
    let _ ← e
    if (← next) ≠ .sign ":" then return ()
  pass
  let t ← next
  if t ≠ .sign ":" && !ends t then
    let _ ← e
  if ← accept (.sign ":") then
    if !ends (← next) then
      let _ ← e

/-- Reads the members and calls behind an operand, and tells whether there are any. -/
def members (e : Reading Expr) : Reading Bool :=
  let step (any : Bool) : Reading (Bool × Bool) := do
    match ← next with
    | .sign "." =>
      pass
      let t ← next
      pass
      match t with
      | .word _ => return (true, true)
      | .integer _ => return (true, true)
      | _ => throw .noMember
    | .sign "[" =>
      pass
      let _ ← listed "]" false fun (_ : List Unit) => subscript e
      return (true, true)
    | .sign "(" =>
      let _ ← arguments e
      return (true, true)
    | _ => return (any, false)
  repeating step false

/-- Names with dots between them. -/
def dotted : Reading (List String) := do
  let step (words : List String) : Reading (List String × Bool) := do
    if ← accept (.sign ".") then return (words ++ [← word], true) else return (words, false)
  repeating step [← word]

/-- The name of the filter that makes a comment. -/
def commentFilter : String := "block_comment"

/-- Reads the name and the arguments of a filter, and applies it. -/
def applyFilter (e : Reading Expr) (v : Expr) : Reading Expr := do
  let name ← dotted
  let hasArguments ← if (← next) = .sign "(" then arguments e else pure false
  return if name = [commentFilter] && !hasArguments then .comment v else .unsupported

/-- Whether a test whose name stands in front of the token has an argument there. -/
def startsArgument : Token → Bool
  | .word name => name ≠ "else" && name ≠ "or" && name ≠ "and"
  | .integer _ => true
  | .decimal _ => true
  | .quotation _ => true
  | .sign s => s = "[" || s = "\x7b"
  | _ => false

/-- Reads the name and the argument of a test. -/
def test (e : Reading Expr) : Reading Unit := do
  let _ ← accept (.word "not")
  let _ ← dotted
  let t ← next
  if t = .sign "(" then
    let _ ← arguments e
  else if startsArgument t then
    if t = .word "is" then throw .chainedTest
    let _ ← primary e
    let _ ← members e

/-- Reads the filters, tests and calls behind an operand. -/
def filters (e : Reading Expr) (v : Expr) : Reading Expr :=
  let step (v : Expr) : Reading (Expr × Bool) := do
    match ← next with
    | .sign "|" =>
      pass
      return (← applyFilter e v, true)
    | .word "is" =>
      pass
      test e
      return (.unsupported, true)
    | .sign "(" =>
      let _ ← arguments e
      return (.unsupported, true)
    | _ => return (v, false)
  repeating step v

/-- An operand: a value with any signs in front, and members and filters behind. -/
def operand (e : Reading Expr) : Reading Expr := do
  let step (any : Bool) : Reading (Bool × Bool) := do
    if ← accept (.sign "+") then return (true, true)
    if ← accept (.sign "-") then return (true, true)
    return (any, false)
  let signed ← repeating step false
  let v ← primary e
  let extended ← members e
  filters e (if signed || extended then .unsupported else v)

/-! ## Operators -/

/-- The signs that stand between operands. -/
def operatorSigns : List String :=
  ["==", "!=", ">", ">=", "<", "<=", "+", "-", "~", "*", "/", "//", "%", "**"]

/-- Passes the operator behind an operand, and tells whether the next operand may be negated. -/
def operator? : Reading (Option Bool) := do
  match ← next with
  | .sign s =>
    if operatorSigns.contains s then
      pass
      return some false
    else return none
  | .word name =>
    if name = "and" || name = "or" then
      pass
      return some true
    else if name = "in" then
      pass
      return some false
    else if name = "not" then
      if (← second) = .word "in" then
        pass
        pass
        return some false
      else return none
    else return none
  | _ => return none

/-- Reads operands with operators between them. -/
def operation (e : Reading Expr) : Reading Expr := do
  let negated ← acceptAll (.word "not")
  let v ← operand e
  let step (any : Bool) : Reading (Bool × Bool) := do
    match ← operator? with
    | none => return (any, false)
    | some negatable =>
      if negatable then
        let _ ← acceptAll (.word "not")
      let _ ← operand e
      return (true, true)
  let joined ← repeating step false
  return if negated || joined then .unsupported else v

/-- Reads an operation, or several of which conditions choose one. -/
def choice (e : Reading Expr) : Reading Expr := do
  let v ← operation e
  let step (any : Bool) : Reading (Bool × Bool) := do
    if ← accept (.word "if") then
      let _ ← operation e
      if ← accept (.word "else") then
        let _ ← e
      return (true, true)
    else return (any, false)
  let chosen ← repeating step false
  return if chosen then .unsupported else v

/-- Reads an expression with so many expressions inside each other at most. -/
def expressionWithin : Nat → Reading Expr
  | 0 => throw .unsupported
  | depth + 1 => choice (expressionWithin depth)

/-- Reads an expression.  Each expression inside another one starts behind a token of it. -/
def expression : Reading Expr := fun ts => expressionWithin (ts.length + 1) ts

/-- Reads what is inserted. -/
def inserted : Reading Expr := sequence false expression

/-- Reads what a block depends on, where no conditions choose. -/
def decisive : Reading Expr := sequence false (operation expression)

end JavaScribe.Template
