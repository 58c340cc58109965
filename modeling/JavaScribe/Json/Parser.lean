import JavaScribe.Json.Basic
import JavaScribe.Text.Numeral
import JavaScribe.Text.Quoted

/-!
# Reading JSON

A value is read from the front of a text and the rest is returned.  Reading recurses on a bound
for the number of nested steps; every step uses up a character, so the length of the text is
always enough.  Strings may hold no control character.  Two escapes that form a surrogate pair are
one character.

A text is refused for one of three causes: it is not JSON, one of its integers has more digits
than are ever read, or its arrays and objects nest deeper than the reader was told to follow.  The
first cause met from the left is the one reported.
-/

set_option autoImplicit false

namespace JavaScribe.Json

/-- Why a text is not read as a value. -/
inductive ReadError where
  | malformed
  | overlong (numeral : Text.OverlongNumeral)
  | tooDeep
deriving DecidableEq, Repr

/-- Whether JSON allows the character between tokens. -/
def isSpace (c : Char) : Bool := c == ' ' || c == '\t' || c == '\n' || c == '\r'

/-- The text from its first character that is not a space. -/
def skipSpace (cs : List Char) : List Char := cs.dropWhile isSpace

/-- The number that a hexadecimal digit of either case stands for. -/
def hexValue? (c : Char) : Option Nat :=
  if '0' ≤ c ∧ c ≤ '9' then some (c.toNat - 0x30)
  else if 'a' ≤ c ∧ c ≤ 'f' then some (c.toNat - 0x57)
  else if 'A' ≤ c ∧ c ≤ 'F' then some (c.toNat - 0x37)
  else none

/-- The code unit that four hexadecimal digits denote. -/
def unit? (a b c d : Char) : Option Nat := do
  return (((← hexValue? a) * 16 + (← hexValue? b)) * 16 + (← hexValue? c)) * 16 + (← hexValue? d)

/-- The character that a one-letter escape denotes. -/
def escaped? (c : Char) : Option Char :=
  if c = Text.doubleQuote ∨ c = '\\' ∨ c = '/' then some c
  else if c = 'b' then some '\x08'
  else if c = 'f' then some '\x0c'
  else if c = 'n' then some '\n'
  else if c = 'r' then some '\r'
  else if c = 't' then some '\t'
  else none

/-- Reads the inside of a string up to its closing quote, as code units. -/
def readUnits : List Char → Option (List Nat × List Char)
  | [] => none
  | '\\' :: 'u' :: a :: b :: c :: d :: rest =>
    match unit? a b c d, readUnits rest with
    | some n, some (ns, rest) => some (n :: ns, rest)
    | _, _ => none
  | '\\' :: c :: rest =>
    match escaped? c, readUnits rest with
    | some e, some (ns, rest) => some (e.toNat :: ns, rest)
    | _, _ => none
  | c :: rest =>
    if c = Text.doubleQuote then some ([], rest)
    else if c = '\\' ∨ c.toNat < 0x20 then none
    else (readUnits rest).map fun r => (c.toNat :: r.1, r.2)

/-- The characters of a list of code units; a surrogate pair is one character. -/
def decodeUnits : List Nat → List Char
  | [] => []
  | [n] => [Char.ofNat n]
  | hi :: lo :: ns =>
    if 0xD800 ≤ hi ∧ hi < 0xDC00 ∧ 0xDC00 ≤ lo ∧ lo < 0xE000 then
      Char.ofNat (0x10000 + (hi - 0xD800) * 0x400 + (lo - 0xDC00)) :: decodeUnits ns
    else Char.ofNat hi :: decodeUnits (lo :: ns)

/-- Reads a string of which the opening quote has been read. -/
def readString (cs : List Char) : Except ReadError (String × List Char) :=
  match readUnits cs with
  | some (ns, rest) => .ok (String.ofList (decodeUnits ns), rest)
  | none => .error .malformed

/-- The longest run of digits at the front of a text, and the rest. -/
def spanDigits (cs : List Char) : List Char × List Char := cs.span Char.isDigit

/-- The whole part of a number: a zero alone, or digits that do not start with one. -/
def spanWhole : List Char → List Char × List Char
  | '0' :: rest => (['0'], rest)
  | cs => spanDigits cs

/-- The fraction of a number, with its point, or nothing. -/
def spanFraction : List Char → List Char × List Char
  | '.' :: rest =>
    match spanDigits rest with
    -- a point without digits behind it is no part of the number
    | ([], _) => ([], '.' :: rest)
    | (ds, after) => ('.' :: ds, after)
  | cs => ([], cs)

/-- The sign of an exponent, or nothing. -/
def spanSign : List Char → List Char × List Char
  | '+' :: rest => (['+'], rest)
  | '-' :: rest => (['-'], rest)
  | cs => ([], cs)

/-- The exponent of a number, with its letter, or nothing. -/
def spanExponent : List Char → List Char × List Char
  | [] => ([], [])
  | e :: rest =>
    if e = 'e' ∨ e = 'E' then
      match spanDigits (spanSign rest).2 with
      | ([], _) => ([], e :: rest)
      | (ds, after) => (e :: (spanSign rest).1 ++ ds, after)
    else ([], e :: rest)

/-- The number that decimal digits stand for. -/
def digitsValue (digits : List Char) : Nat :=
  digits.foldl (fun n c => 10 * n + (c.toNat - 0x30)) 0

/-- The number that an exponent stands for, a sign and digits after a letter; zero if it is
empty. -/
def exponentValue (exponent : List Char) : Int :=
  let (sign, digits) := spanSign (exponent.drop 1)
  if sign = ['-'] then -(digitsValue digits : Int) else digitsValue digits

/-- The number with a whole part, a fraction and an exponent. -/
def readReal (negative : Bool) (whole fraction exponent : List Char) : Floating :=
  let digits := fraction.drop 1
  Floating.ofDecimal negative (digitsValue (whole ++ digits))
    (exponentValue exponent - digits.length)

/-- Reads a number without its sign. -/
def readMagnitude (negative : Bool) (cs : List Char) : Except ReadError (Json × List Char) :=
  match spanWhole cs with
  | ([], _) => .error .malformed
  | (whole, rest) =>
    let (fraction, rest) := spanFraction rest
    let (exponent, rest) := spanExponent rest
    if fraction.isEmpty && exponent.isEmpty then
      match Text.readNumeral whole with
      | .ok n => .ok (int (if negative then -(n : Int) else n), rest)
      | .error e => .error (.overlong e)
    else .ok (real (readReal negative whole fraction exponent), rest)

/-- The values that are written as a word. -/
def wordValues : List (String × Json) :=
  [("null", null), ("true", bool true), ("false", bool false), ("NaN", real .undefined),
    ("Infinity", real (.infinite false)), ("-Infinity", real (.infinite true))]

/-- Reads a word from the front of a text. -/
def readWord? (cs : List Char) : Option (Json × List Char) :=
  wordValues.findSome? fun w =>
    if w.1.toList.isPrefixOf cs then some (w.2, cs.drop w.1.length) else none

/-- Reads a value without parts from the front of a text. -/
def readScalar (cs : List Char) : Except ReadError (Json × List Char) :=
  -- words come first, for one of them starts with the sign of a number
  match readWord? cs with
  | some r => .ok r
  | none =>
    match cs with
    | '-' :: rest => readMagnitude true rest
    | cs => readMagnitude false cs

/-- Reads the colon after a key, with the white space around it. -/
def readColon (cs : List Char) : Except ReadError (List Char) :=
  match skipSpace cs with
  | ':' :: rest => .ok (skipSpace rest)
  | _ => .error .malformed

mutual
/-- Reads a value that starts at the first character.  The first bound is for the nesting, the
second one for the steps. -/
def readValue : Nat → Nat → List Char → Except ReadError (Json × List Char)
  | _, 0, _ => .error .malformed
  | nesting, fuel + 1, cs =>
    match cs, nesting with
    -- what nests too deep is refused before anything in it is looked at
    | '[' :: _, 0 => .error .tooDeep
    | '\x7b' :: _, 0 => .error .tooDeep
    | '[' :: rest, nesting + 1 =>
      match skipSpace rest with
      | ']' :: rest => .ok (array [], rest)
      | rest => do
        let (items, rest) ← readItems nesting fuel rest
        .ok (array items, rest)
    | '\x7b' :: rest, nesting + 1 =>
      match skipSpace rest with
      | '\x7d' :: rest => .ok (object [], rest)
      | rest => do
        let (fields, rest) ← readFields nesting fuel rest
        -- of a key that is there twice the last value counts, in the first place
        .ok (object (Table.putAll [] fields), rest)
    | '\x22' :: rest, _ => do
      let (s, rest) ← readString rest
      .ok (string s, rest)
    | cs, _ => readScalar cs

/-- Reads the items of an array up to its closing bracket. -/
def readItems : Nat → Nat → List Char → Except ReadError (List Json × List Char)
  | _, 0, _ => .error .malformed
  | nesting, fuel + 1, cs => do
    let (item, rest) ← readValue nesting fuel cs
    match skipSpace rest with
    | ',' :: rest =>
      let (items, rest) ← readItems nesting fuel (skipSpace rest)
      .ok (item :: items, rest)
    | ']' :: rest => .ok ([item], rest)
    | _ => .error .malformed

/-- Reads the fields of an object up to its closing brace. -/
def readFields : Nat → Nat → List Char → Except ReadError (List (String × Json) × List Char)
  | _, 0, _ => .error .malformed
  | nesting, fuel + 1, cs =>
    match cs with
    | '\x22' :: rest => do
      let (key, rest) ← readString rest
      let rest ← readColon rest
      let (value, rest) ← readValue nesting fuel rest
      match skipSpace rest with
      | ',' :: rest =>
        let (fields, rest) ← readFields nesting fuel (skipSpace rest)
        .ok ((key, value) :: fields, rest)
      | '\x7d' :: rest => .ok ([(key, value)], rest)
      | _ => .error .malformed
    | _ => .error .malformed
end

/-- Reads a whole text as one value, with spaces allowed around it. -/
def parseChars (nesting : Nat) (cs : List Char) : Except ReadError Json := do
  let (value, rest) ← readValue nesting (cs.length + 1) (skipSpace cs)
  if (skipSpace rest).isEmpty then .ok value else .error .malformed

/-- Reads a whole text as one value whose arrays and objects nest no deeper than a bound. -/
def parseWithin (nesting : Nat) (s : String) : Except ReadError Json := parseChars nesting s.toList

/-- Reads a whole text as one value.  Every level of nesting takes a character, so the length of
the text is bound enough. -/
def parse (s : String) : Except ReadError Json := parseWithin s.length s

end JavaScribe.Json
