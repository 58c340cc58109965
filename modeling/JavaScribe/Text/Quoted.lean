import JavaScribe.Text.Printable

/-!
# Quoted text

Messages show a text in quotes on one line.  The quotes are single ones, unless the text holds a
single quote and no double one.  The active quote, the backslash and the line controls are
escaped by a backslash, and a character that no reader could see is written by its code point.
-/

set_option autoImplicit false

namespace JavaScribe.Text

/-- The apostrophe. -/
def singleQuote : Char := Char.ofNat 0x27

/-- The quotation mark. -/
def doubleQuote : Char := Char.ofNat 0x22

/-- The quotation mark that a text is put in. -/
def quoteMark (cs : List Char) : Char :=
  if cs.contains singleQuote && !cs.contains doubleQuote then doubleQuote else singleQuote

/-- The last `width` hexadecimal digits of a number, in lower case. -/
def hexDigits : Nat → Nat → List Char
  | 0, _ => []
  | width + 1, n => hexDigits width (n / 16) ++ [Nat.digitChar (n % 16)]

/-- A character by its code point, in the shortest of the three forms that can hold it. -/
def codePointEscape (n : Nat) : List Char :=
  if n < 0x100 then ['\\', 'x'] ++ hexDigits 2 n
  else if n < 0x10000 then ['\\', 'u'] ++ hexDigits 4 n
  else ['\\', 'U'] ++ hexDigits 8 n

/-- A character as it stands between the given quotation marks. -/
def quoteChar (mark c : Char) : List Char :=
  if c = mark ∨ c = '\\' then ['\\', c]
  else if c = '\n' then ['\\', 'n']
  else if c = '\r' then ['\\', 'r']
  else if c = '\t' then ['\\', 't']
  else if isPrintable c then [c]
  else codePointEscape c.toNat

/-- A text in quotes, with everything escaped that a reader could not see or would misread. -/
def quote (s : String) : String :=
  let cs := s.toList
  let mark := quoteMark cs
  String.ofList (mark :: cs.flatMap (quoteChar mark) ++ [mark])

end JavaScribe.Text
