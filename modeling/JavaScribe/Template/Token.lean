import JavaScribe.Template.Fault
import JavaScribe.Floating.Basic
import JavaScribe.Text.Blank
import JavaScribe.Text.Numeral
import JavaScribe.Text.Word

/-!
# Tokens of templates

Between the braces of a value or a block tag stand words, numbers, quotations and signs.  White
space separates them and means nothing else.

A closing inside brackets is read as the signs it is made of.  So a brace in front of the braces of
a value takes one of the closing braces for itself.

A source that cannot be read any further ends with a token that says why.  In this way the fault is
met only after everything in front of it has been understood.
-/

set_option autoImplicit false

namespace JavaScribe.Template

/-- What braces with a second sign announce. -/
inductive Opening where
  | value
  | tag
  | comment
deriving DecidableEq, Repr

/-- What stands between the braces of a value or a block tag, and what ends it. -/
inductive Token where
  | word (name : String)
  | integer (n : Nat)
  | decimal (x : Floating)
  /-- A quotation, as it stands between its marks. -/
  | quotation (text : List Char)
  | sign (s : String)
  /-- The braces that close what was opened. -/
  | closing (k : Opening)
  | sourceEnd
  /-- The source cannot be read from here. -/
  | fault (f : TemplateFault)
deriving DecidableEq, Repr

namespace Token

/-- What a token is called in messages. -/
def shown : Token → String
  | word name => name
  | integer _ => "integer"
  | decimal _ => "float"
  | quotation _ => "string"
  | sign s => s
  | closing .value => "end of print statement"
  | closing .tag => "end of statement block"
  | closing .comment => "end of comment"
  | sourceEnd => "end of template"
  | fault _ => ""

/-- The fault that the token stands where something else is needed. -/
def insteadOf (found : Token) (wanted : String) : TemplateFault :=
  if found = sourceEnd then .unfinished wanted else .expected wanted found.shown

end Token

/-! ## Closings -/

/-- The text without a newline at its start. -/
def dropNewline : List Char → List Char
  | '\n' :: cs => cs
  | cs => cs

/-- What follows the closing of a block tag or a comment, if the text starts with one.  The newline
behind it goes as well, with a minus sign all white space, and with a plus sign nothing. -/
def afterBlock? (mark : Char) : List Char → Option (List Char)
  | '+' :: c :: '\x7d' :: cs => if c = mark then some cs else none
  | '-' :: c :: '\x7d' :: cs => if c = mark then some (Text.trimStart Text.isBlank cs) else none
  | c :: '\x7d' :: cs => if c = mark then some (dropNewline cs) else none
  | _ => none

/-- What follows the closing of a value, if the text starts with one.  With a minus sign the white
space behind it goes as well. -/
def afterValue? : List Char → Option (List Char)
  | '-' :: '\x7d' :: '\x7d' :: cs => some (Text.trimStart Text.isBlank cs)
  | '\x7d' :: '\x7d' :: cs => some cs
  | _ => none

/-- What follows the closing, if the text starts with it. -/
def Opening.after? : Opening → List Char → Option (List Char)
  | value => afterValue?
  | tag => afterBlock? '%'
  | comment => afterBlock? '#'

/-! ## Words, numbers, quotations and signs -/

/-- The longest run of the given digits, single underscores left out, and the rest. -/
def spanDigits (isDigit : Char → Bool) : List Char → List Char × List Char
  | [] => ([], [])
  | '_' :: c :: cs =>
    if isDigit c then
      let r := spanDigits isDigit cs
      (c :: r.1, r.2)
    else ([], '_' :: c :: cs)
  | c :: cs =>
    if isDigit c then
      let r := spanDigits isDigit cs
      (c :: r.1, r.2)
    else ([], c :: cs)

/-- A run of decimal digits that starts with one, if the text starts so. -/
def spanNumeral (cs : List Char) : List Char × List Char :=
  if (cs.head?.map Char.isDigit).getD false then spanDigits Char.isDigit cs else ([], cs)

/-- The digits behind a decimal point, if the text starts with a point and a digit. -/
def spanFraction : List Char → List Char × List Char
  | '.' :: cs =>
    match spanNumeral cs with
    | ([], _) => ([], '.' :: cs)
    | r => r
  | cs => ([], cs)

/-- The exponent that the text starts with, if it does, and the rest. -/
def readExponent? : List Char → Option (Int × List Char)
  | [] => none
  | e :: cs =>
    if e.toLower ≠ 'e' then none
    else
      let (negative, digits) := match cs with
        | '+' :: cs => (false, cs)
        | '-' :: cs => (true, cs)
        | cs => (false, cs)
      match spanNumeral digits with
      | ([], _) => none
      | (ds, rest) =>
        let n : Int := Text.numeralValue ds
        some (if negative then -n else n, rest)

/-- A number with a fraction or an exponent. -/
def decimal? (cs : List Char) : Option (Token × List Char) :=
  let (whole, rest) := spanNumeral cs
  let (fraction, rest) := spanFraction rest
  let number (power : Int) : Token :=
    .decimal (.ofDecimal false (Text.numeralValue (whole ++ fraction)) (power - fraction.length))
  if whole.isEmpty then none
  else
    match readExponent? rest with
    | some (power, rest) => some (number power, rest)
    | none => if fraction.isEmpty then none else some (number 0, rest)

/-- The value of a hexadecimal digit. -/
def hexValue (c : Char) : Nat :=
  if c.isDigit then Text.digitValue c else c.toLower.toNat - 'a'.toNat + 10

/-- The bases that numbers may be written in, by their letters, with their digits. -/
def bases : List (Char × Nat × (Char → Bool)) :=
  [('b', 2, fun c => c == '0' || c == '1'), ('o', 8, fun c => '0' ≤ c && c ≤ '7'),
    ('x', 16, fun c => c.isDigit || ('a' ≤ c.toLower && c.toLower ≤ 'f'))]

/-- A number with the letter of its base behind a zero. -/
def basedInteger? : List Char → Option (Token × List Char)
  | '0' :: letter :: cs => do
    let (base, isDigit) ← bases.lookup letter.toLower
    match spanDigits isDigit cs with
    | ([], _) => none
    | (ds, rest) => some (.integer (ds.foldl (fun n c => base * n + hexValue c) 0), rest)
  | _ => none

/-- A whole number.  Zeros in front of other digits are a number of their own. -/
def integer? (cs : List Char) : Option (Token × List Char) :=
  (basedInteger? cs).or <|
    match cs with
    | '0' :: cs => some (.integer 0, (spanDigits (· == '0') cs).2)
    | cs =>
      match spanNumeral cs with
      | ([], _) => none
      | (ds, rest) => some (.integer (Text.numeralValue ds), rest)

/-- A run of word characters, which has to be a name. -/
def word? (cs : List Char) : Option (Token × List Char) :=
  match cs.span Text.isWordChar with
  | ([], _) => none
  | (run, rest) =>
    some (if Text.isName run then .word (String.ofList run) else .fault .brokenName, rest)

/-- The text up to a quotation mark, and the rest.  A backslash takes the next character along. -/
def spanQuotation? (mark : Char) : List Char → Option (List Char × List Char)
  | [] => none
  | '\\' :: c :: cs => (spanQuotation? mark cs).map fun r => ('\\' :: c :: r.1, r.2)
  | c :: cs =>
    if c = mark then some ([], cs) else (spanQuotation? mark cs).map fun r => (c :: r.1, r.2)

/-- A text in single or double quotation marks. -/
def quotation? : List Char → Option (Token × List Char)
  | [] => none
  | c :: cs =>
    if c = Text.singleQuote ∨ c = Text.doubleQuote then
      (spanQuotation? c cs).map fun r => (.quotation r.1, r.2)
    else none

/-- The signs, those of two characters first. -/
def signs : List String :=
  ["//", "**", "==", "!=", ">=", "<=", "+", "-", "/", "*", "%", "~", "[", "]", "(", ")", "\x7b",
    "\x7d", ">", "<", "=", ".", ":", "|", ",", ";"]

/-- Reads a sign from the front of a text. -/
def sign? (cs : List Char) : Option (Token × List Char) :=
  (signs.find? fun s => s.toList.isPrefixOf cs).map fun s => (.sign s, cs.drop s.length)

/-- The token that the text starts with, and the rest.  Right behind a point digits are no decimal
number. -/
def token? (afterPoint : Bool) (cs : List Char) : Option (Token × List Char) :=
  (if afterPoint then none else decimal? cs).or <| (integer? cs).or <| (word? cs).or <|
    (quotation? cs).or (sign? cs)

/-- The sign that closes the bracket that a sign opens. -/
def bracketEnd? (s : String) : Option String :=
  [("(", ")"), ("[", "]"), ("\x7b", "\x7d")].lookup s

/-- The ends that open brackets wait for, the innermost first, once a token is read as well. -/
def bracketsAfter (ends : List String) : Token → Except TemplateFault (List String)
  | .sign s =>
    match bracketEnd? s with
    | some e => .ok (e :: ends)
    | none =>
      if [")", "]", "\x7d"].contains s then
        match ends with
        | [] => .error (.unexpected s)
        | e :: ends => if s = e then .ok ends else .error (.mismatchedBracket s e)
      else .ok ends
  | .fault f => .error f
  | _ => .ok ends

/-- The tokens up to the closing, and the text behind it.  The source has the given length, and the
bound is the length of the text at most, since every step passes a character. -/
def tokens (length : Nat) (k : Opening) : Nat → List String → Bool → List Char →
    List Token × List Char
  | 0, _, _, _ => ([.sourceEnd], [])
  | fuel + 1, ends, afterPoint, cs =>
    match if ends.isEmpty then k.after? cs else none with
    | some rest => ([.closing k], rest)
    | none =>
      match cs with
      | [] => ([.sourceEnd], [])
      | c :: _ =>
        if Text.isBlank c then
          tokens length k fuel ends false (Text.trimStart Text.isBlank cs)
        else
          match token? afterPoint cs with
          | none => ([.fault (.strayCharacter c (length - cs.length))], [])
          | some (t, rest) =>
            match bracketsAfter ends t with
            | .error f => ([.fault f], [])
            | .ok ends =>
              let more := tokens length k fuel ends (t = .sign ".") rest
              (t :: more.1, more.2)

end JavaScribe.Template
