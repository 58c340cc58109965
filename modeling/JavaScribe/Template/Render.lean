import JavaScribe.Template.Scope

/-!
# Rendering templates

A part of a template is rendered in a scope.  The names of the whole template are looked up before
anything is rendered, and those of a block that goes through a value at the start of every item.
A fault is reported where a name without a meaning is used.
-/

set_option autoImplicit false

namespace JavaScribe

/-- The value that an expression gives. -/
def Expr.eval (s : Scope) : Expr → Except TemplateFault Value
  | name n => s.get n
  | constant v => .ok v
  | comment e =>
    match e.eval s with
    | .ok v => .ok (.text (blockComment v.shown))
    | .error f => .error f
  | unsupported => .error .unsupported

/-- The text of a piece. -/
def Piece.render (s : Scope) : Piece → Except TemplateFault String
  | .text t => .ok t
  | .value e =>
    match e.eval s with
    | .ok v => .ok v.shown
    | .error f => .error f

/-- The texts of pieces, one after the other. -/
def Piece.renderAll (s : Scope) : List Piece → Except TemplateFault String
  | [] => .ok ""
  | p :: ps => do
    let first ← p.render s
    let rest ← renderAll s ps
    return first ++ rest

/-- The meanings that a block gives to names at an item: the name of the item, and the word for the
state of the block if it is read. -/
def Piece.meaningsAt (item : String) (body : List Piece) (j : Json) (progress : Value) :
    List (String × Value) :=
  (item, .data j) ::
    if (reads body).contains Context.progressName then [(Context.progressName, progress)] else []

/-- The text of a body for each item that is left, with the number of items that there are. -/
def Piece.renderEach (c : Context) (s : Scope) (item : String) (body : List Piece) (count : Nat) :
    List Json → Except TemplateFault String
  | [] => .ok ""
  | j :: js => do
    let given := meaningsAt item body j (Value.progress (count - js.length) count)
    let first ← renderAll (s.enter c given (reads body)) body
    let rest ← renderEach c s item body count js
    return first ++ rest

namespace Node

/-- The names that are read in parts of a template, apart from the blocks that go through a value,
in order. -/
def reads : List Node → List String
  | [] => []
  | .piece p :: ns => Piece.reads [p] ++ reads ns
  | .optional condition body :: ns => condition.reads ++ Piece.reads body ++ reads ns
  | .each _ source _ :: ns => source.reads ++ reads ns

/-- The text of a node: that of its piece, or that of its body if the condition holds, or once for
each item. -/
def render (c : Context) (s : Scope) : Node → Except TemplateFault String
  | .piece p => p.render s
  | .optional condition body => do
    let v ← condition.eval s
    if v.isEmpty then return "" else Piece.renderAll s body
  | .each item source body => do
    let v ← source.eval s
    let items ← v.items
    Piece.renderEach c s item body items.length items

/-- The texts of nodes, one after the other. -/
def renderAll (c : Context) (s : Scope) : List Node → Except TemplateFault String
  | [] => .ok ""
  | n :: ns => do
    let first ← n.render c s
    let rest ← renderAll c s ns
    return first ++ rest

/-- Whether the template is meant by the word for it, which is so if the word is read before any
item is called by it. -/
def refersToTemplate (ns : List Node) : Bool :=
  ((ns.flatMap occurrences).find? fun o => o.name == Context.selfName) ==
    some (.read Context.selfName)

/-- The text of the template of a name. -/
def renderTemplate (name : String) (c : Context) (ns : List Node) : Except TemplateFault String :=
  let given :=
    if refersToTemplate ns then [(Context.selfName, Value.template name)] else []
  renderAll c (Scope.enter [] c given (reads ns)) ns

end Node

end JavaScribe
