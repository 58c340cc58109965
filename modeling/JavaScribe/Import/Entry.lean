import JavaScribe.TypeExpr.Basic

/-!
# Import entries

An import entry names a type of a package, a static member of a type, or a whole package.  Entries
are listed by package, then by type name, static entries before the others.
-/

set_option autoImplicit false

namespace JavaScribe

/-- One import declaration.  The type name of a static import carries the member as well. -/
structure ImportEntry where
  package : String
  typeName : String
  isStatic : Bool
  wildcard : Bool
deriving DecidableEq, Repr

namespace ImportEntry

/-- The import of every type of a package. -/
def wholePackage (package : String) : ImportEntry := ⟨package, "*", false, true⟩

/-- The import that a mention of a type needs. -/
def ofTypeName (n : TypeName) : ImportEntry := ⟨n.package, n.outermost, false, false⟩

/-- The import of a static member of a type; the member `*` stands for all of them. -/
def ofMember (n : TypeName) (member : String) : ImportEntry :=
  ⟨n.package, n.name ++ "." ++ member, true, false⟩

/-- The import declaration of an entry. -/
def text (e : ImportEntry) : String :=
  "import " ++ (if e.isStatic then "static " else "") ++ e.package ++ "." ++ e.typeName ++ ";"

/-- The order of listings. -/
def order : ImportEntry → ImportEntry → Ordering :=
  compareLex (compareOn ImportEntry.package)
    (compareLex (compareOn ImportEntry.typeName) (compareOn fun e => !e.isStatic))

/-- Whether an entry comes no later than another one. -/
def precedes (a b : ImportEntry) : Bool := (order a b).isLE

/-- Entries that differ only in the wildcard flag are told apart by it. -/
def fullOrder : ImportEntry → ImportEntry → Ordering :=
  compareLex order (compareOn ImportEntry.wildcard)

/-- The entries in an order that leaves nothing open. -/
def sortFully (es : List ImportEntry) : List ImportEntry :=
  es.mergeSort fun a b => (fullOrder a b).isLE

end ImportEntry

end JavaScribe
