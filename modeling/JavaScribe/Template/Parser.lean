import JavaScribe.Template.Expression
import JavaScribe.Template.Segment
import JavaScribe.Template.Scope

/-!
# Reading templates

The segments of a source are gathered into the parts of a template.  A block starts with a tag and
ends with the tag of its kind that closes it; there may be values between them, but no other block.
-/

set_option autoImplicit false

namespace JavaScribe.Template

open Reading

/-- Reads a value up to its closing. -/
def readValue : Reading Expr := do
  let v ← inserted
  let t ← next
  if t = .closing .value then return v else throw (t.insteadOf (Token.closing .value).shown)

/-- Requires the closing of a block tag. -/
def readTagEnd : Reading Unit := do
  let t ← next
  if t ≠ .closing .tag then throw (t.insteadOf (Token.closing .tag).shown)

/-- Requires the closing of a tag that opens a block, in front of which a colon may stand. -/
def readOpenerEnd : Reading Unit := do
  let _ ← accept (.sign ":")
  readTagEnd

/-- A block that has been opened, with the pieces read so far. -/
structure OpenBlock where
  /-- The item that stands for each part of the value, if the block goes through them. -/
  item : Option String
  value : Expr
  body : List Piece
deriving DecidableEq

/-- Why items cannot be called by an expression that starts with a token. -/
def notAssignable (start : Token) : Expr → TemplateFault
  | .constant (.tuple _) => .unassignable "tuple"
  | e =>
    if start = .sign "[" then .unassignable "list"
    else if start = .sign "\x7b" then .unassignable "dict"
    else
      match e with
      | .constant _ => .unassignable "const"
      | _ => .unsupported

/-- Reads the name that items are called by. -/
def readItem : Reading String := do
  let start ← next
  match ← sequence false (primary expression) with
  | .name name => return name
  | e => throw (notAssignable start e)

/-- The words that start a tag in the full template language. -/
def tagWords : List String :=
  ["for", "if", "block", "extends", "print", "macro", "include", "from", "import", "set", "with",
    "autoescape", "call", "filter", "raw"]

/-- What is wrong with a tag that neither opens nor closes a block, by its first token. -/
def strayTag (inside : Option BlockKind) : Token → TemplateFault
  | .word name =>
    let known := tagWords ++ (inside.map BlockKind.followers).getD []
    if known.contains name then .unsupported else .unknownTag name inside
  | _ => .noTagName

namespace OpenBlock

/-- Reads the opening of a block: a condition, or a name for the items of a value. -/
def read : Reading OpenBlock := do
  match ← next with
  | .word "if" =>
    pass
    let condition ← decisive
    readOpenerEnd
    return ⟨none, condition, []⟩
  | .word "for" =>
    pass
    let item ← readItem
    expect (.word "in")
    let source ← decisive
    let filtered ← accept (.word "if")
    if filtered then
      let _ ← expression
    let nested ← accept (.word "recursive")
    readOpenerEnd
    return ⟨some item, if filtered || nested then .unsupported else source, []⟩
  | t => throw (strayTag none t)

/-- The kind of block that is open. -/
def kind (b : OpenBlock) : BlockKind := if b.item.isSome then .each else .optional

/-- The block with one more piece in it. -/
def push (b : OpenBlock) (p : Piece) : OpenBlock := { b with body := b.body ++ [p] }

/-- The node that the block is when it is closed. -/
def toNode (b : OpenBlock) : Node :=
  match b.item with
  | some item => .each item b.value b.body
  | none => .optional b.value b.body

/-- Reads a tag, which has to close the block. -/
def readCloser (b : OpenBlock) : Reading Unit := do
  let t ← next
  if t = .word b.kind.closer then
    pass
    readTagEnd
  else throw (strayTag (some b.kind) t)

end OpenBlock

/-- Gathers segments into the parts of a template, given the block that is open. -/
def assemble : Option OpenBlock → List Segment → Except TemplateFault (List Node)
  | none, [] => .ok []
  | some b, [] => .error (.unclosed b.kind)
  | _, .fault f :: _ => .error f
  | none, .text cs :: more => do
    let rest ← assemble none more
    return .piece (.text (String.ofList cs)) :: rest
  | none, .value ts :: more => do
    let e ← readValue.ofTokens ts
    let rest ← assemble none more
    return .piece (.value e) :: rest
  | none, .tag ts :: more => do
    let b ← OpenBlock.read.ofTokens ts
    assemble (some b) more
  | some b, .text cs :: more => assemble (some (b.push (.text (String.ofList cs)))) more
  | some b, .value ts :: more => do
    let e ← readValue.ofTokens ts
    assemble (some (b.push (.value e))) more
  | some b, .tag ts :: more => do
    b.readCloser.ofTokens ts
    let rest ← assemble none more
    return b.toNode :: rest

/-- Refuses blocks whose items are called by the word for the state of a block. -/
def requireItems (ns : List Node) : Except TemplateFault Unit :=
  if ns.any fun n => n.occurrences.contains (.bound Context.progressName) then
    .error .progressItem
  else .ok ()

/-- Reads a template; all its blocks have to be closed. -/
def parse (source : String) : Except TemplateFault (List Node) := do
  let nodes ← assemble none (Segment.ofSource source)
  requireItems nodes
  return nodes

end JavaScribe.Template
