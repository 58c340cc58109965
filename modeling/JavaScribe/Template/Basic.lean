import JavaScribe.Template.Value

/-!
# Templates

A template is literal text with places for values, and with blocks that are written if a value is
not empty or once for each item of a value.  Blocks are not nested.

A value is given by an expression: a name, a constant, or either of them as a block comment.  The
template language has many more expressions.  They are told from mistakes, but nothing is kept of
them.
-/

set_option autoImplicit false

namespace JavaScribe

/-- What gives a value. -/
inductive Expr where
  | name (name : String)
  | constant (v : Value)
  | comment (e : Expr)
  /-- An expression that is understood but gives no value here. -/
  | unsupported
deriving DecidableEq

/-- A part of a template outside or inside a block. -/
inductive Piece where
  | text (s : String)
  | value (e : Expr)
deriving DecidableEq

/-- A part of a template. -/
inductive Node where
  | piece (p : Piece)
  /-- Written unless the value is empty. -/
  | optional (condition : Expr) (body : List Piece)
  /-- Written for each item of the value. -/
  | each (item : String) (source : Expr) (body : List Piece)
deriving DecidableEq

/-- A name as it stands in a template: it is read, or an item is called by it. -/
inductive Occurrence where
  | read (name : String)
  | bound (name : String)
deriving DecidableEq, Repr

/-- The name that occurs. -/
def Occurrence.name : Occurrence → String
  | read name => name
  | bound name => name

/-- The names that an expression reads. -/
def Expr.reads : Expr → List String
  | name n => [n]
  | constant _ => []
  | comment e => e.reads
  | unsupported => []

/-- The names that pieces read, in order. -/
def Piece.reads : List Piece → List String
  | [] => []
  | .text _ :: ps => reads ps
  | .value e :: ps => e.reads ++ reads ps

/-- The names in a part of a template. -/
def Node.occurrences : Node → List Occurrence
  | .piece p => (Piece.reads [p]).map .read
  | .optional condition body => (condition.reads ++ Piece.reads body).map .read
  | .each item source body => .bound item :: (source.reads ++ Piece.reads body).map .read

end JavaScribe
