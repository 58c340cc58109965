import JavaScribe.Text.Quoted

/-!
# Names

An identifier starts with a letter, an underscore or a dollar sign and goes on with these and
digits; only the letters and digits of the basic alphabet count.  The words that the Java language
keeps for itself are no identifiers.  A package name is empty, for the default package, or a
sequence of identifiers separated by dots.
-/

set_option autoImplicit false

namespace JavaScribe

/-- A name that cannot stand where it was to be used. -/
structure InvalidName where
  /-- What the name was to be, such as "field name". -/
  role : String
  name : String
deriving DecidableEq, Repr

/-- The message for a name that is not legal in its role. -/
def InvalidName.message (e : InvalidName) : String :=
  "Invalid " ++ e.role ++ ": " ++ Text.quote e.name

/-- The words of the Java language that no declaration may take as its name. -/
def reservedWords : List String := [
  "abstract", "assert", "boolean", "break", "byte", "case", "catch", "char", "class", "const",
  "continue", "default", "do", "double", "else", "enum", "extends", "final", "finally", "float",
  "for", "goto", "if", "implements", "import", "instanceof", "int", "interface", "long", "native",
  "new", "package", "private", "protected", "public", "return", "short", "static", "strictfp",
  "super", "switch", "synchronized", "this", "throw", "throws", "transient", "try", "void",
  "volatile", "while", "_", "true", "false", "null"]

/-- Whether an identifier can start with the character. -/
def isIdentifierStart (c : Char) : Bool := c.isAlpha || c == '_' || c == '$'

/-- Whether an identifier can go on with the character. -/
def isIdentifierPart (c : Char) : Bool := isIdentifierStart c || c.isDigit

/-- Whether a text has the characters of an identifier; it may still be a reserved word. -/
def hasIdentifierShape : List Char → Bool
  | [] => false
  | c :: cs => isIdentifierStart c && cs.all isIdentifierPart

/-- Whether a name is an identifier: it has the characters of one and is no reserved word. -/
def isIdentifier (name : String) : Bool :=
  hasIdentifierShape name.toList && !reservedWords.contains name

/-- The parts of a dotted name; a name without dots is its only part. -/
def dottedParts (name : String) : List String := (name.toList.splitOn '.').map String.ofList

/-- Whether a name is that of a package: it is empty or made of identifiers with dots between
them. -/
def isPackageName (name : String) : Bool := name.isEmpty || (dottedParts name).all isIdentifier

/-- Refuses a name that is no identifier. -/
def requireIdentifier (role name : String) : Except InvalidName Unit :=
  if isIdentifier name then .ok () else .error ⟨role, name⟩

/-- Refuses a name that is no name of a package. -/
def requirePackageName (name : String) : Except InvalidName Unit :=
  if isPackageName name then .ok () else .error ⟨"package name", name⟩

end JavaScribe
