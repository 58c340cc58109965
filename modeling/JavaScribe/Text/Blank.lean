/-!
# Blank characters

White space is a fixed set of characters: the control characters that move the position, the four
separators of records, and every space and line separator of the wider character set.  A
zero-width space and a byte-order mark are not in it.

The section on trimming works on lists of characters and for any class of characters, since
texts are trimmed of line ends, of indentation and of all white space in turn.
-/

set_option autoImplicit false

namespace JavaScribe.Text

/-- Whether a character is white space. -/
def isBlank (c : Char) : Bool :=
  let n := c.toNat
  (9 ≤ n && n ≤ 13) || (0x1C ≤ n && n ≤ 0x20) || n == 0x85 || n == 0xA0 || n == 0x1680 ||
    (0x2000 ≤ n && n ≤ 0x200A) || n == 0x2028 || n == 0x2029 || n == 0x202F || n == 0x205F ||
    n == 0x3000

/-- Whether the character can indent a line: a space or a tab. -/
def isIndent (c : Char) : Bool := c == ' ' || c == '\t'

/-- Whether the character ends a line. -/
def isNewline (c : Char) : Bool := c == '\n'

/-- Drops the characters of a class from the start of a text. -/
def trimStart (p : Char → Bool) (cs : List Char) : List Char := cs.dropWhile p

/-- A text without the characters of a class at its end. -/
def trimEnd (p : Char → Bool) (cs : List Char) : List Char := (cs.reverse.dropWhile p).reverse

/-- A text without the characters of a class at both ends. -/
def trim (p : Char → Bool) (cs : List Char) : List Char := trimEnd p (trimStart p cs)

/-- The words of a text: its longest runs without white space. -/
def words (cs : List Char) : List (List Char) := (cs.splitOnP isBlank).filter (!·.isEmpty)

/-- The text on one line, its words one space apart. -/
def collapse (s : String) : String :=
  " ".intercalate ((words s.toList).map String.ofList)

end JavaScribe.Text
