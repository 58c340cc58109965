import JavaScribe.Template.Token

/-!
# Segments of templates

The source of a template is cut at its openings: two braces for a value, a brace with a percent
sign for a block tag, and a brace with a number sign for a comment, of which nothing is kept.  Line
ends of every style become newlines.

A newline right after a block tag or a comment goes, and so does the indentation in front of one
that is the first thing on its line.  Behind an opening a minus sign takes away all white space in
front of it, and a plus sign keeps the indentation.
-/

set_option autoImplicit false

namespace JavaScribe.Template

/-- The source with every line end written as a newline. -/
def normalizeNewlines : List Char → List Char
  | [] => []
  | '\r' :: '\n' :: cs => '\n' :: normalizeNewlines cs
  | '\r' :: cs => '\n' :: normalizeNewlines cs
  | c :: cs => c :: normalizeNewlines cs

/-- A piece of the source. -/
inductive Segment where
  | text (cs : List Char)
  | value (ts : List Token)
  | tag (ts : List Token)
  | fault (f : TemplateFault)
deriving DecidableEq, Repr

/-- The text before the next opening, and the opening with what follows it. -/
def cut : List Char → List Char × Option (Opening × List Char)
  | [] => ([], none)
  | '\x7b' :: '\x7b' :: cs => ([], some (.value, cs))
  | '\x7b' :: '%' :: cs => ([], some (.tag, cs))
  | '\x7b' :: '#' :: cs => ([], some (.comment, cs))
  | c :: cs => (c :: (cut cs).1, (cut cs).2)

/-- The sign right behind an opening that asks for white space to go or to stay. -/
inductive Margin where
  | plain
  | kept
  | dropped
deriving DecidableEq, Repr

/-- Reads the sign behind an opening, if there is one. -/
def readMargin : List Char → Margin × List Char
  | '-' :: cs => (.dropped, cs)
  | '+' :: cs => (.kept, cs)
  | cs => (.plain, cs)

/-- Whether the character is white space within a line. -/
def isMargin (c : Char) : Bool := Text.isBlank c && !Text.isNewline c

/-- The text before a block tag, without the indentation of the tag. -/
def dropIndentation (atLineStart : Bool) (cs : List Char) : List Char :=
  let before := Text.trimEnd isMargin cs
  match before.getLast? with
  -- without a line end in the text it depends on what comes before the text
  | none => if atLineStart then [] else cs
  | some c => if c = '\n' then before else cs

/-- The text in front of an opening that is left. -/
def Margin.trim (k : Opening) (atLineStart : Bool) (cs : List Char) : Margin → List Char
  | plain => if k = .value then cs else dropIndentation atLineStart cs
  | kept => cs
  | dropped => Text.trimEnd Text.isBlank cs

/-- What follows the end of a comment, if it ends. -/
def afterComment? : List Char → Option (List Char)
  | [] => none
  | c :: cs => (Opening.comment.after? (c :: cs)).or (afterComment? cs)

/-- Whether the part of a text in front of its rest ends a line. -/
def endsLine (cs rest : List Char) : Bool :=
  (cs.take (cs.length - rest.length)).getLast? == some '\n'

/-- Cuts a source of the given length into segments.  The bound is the length of the source at
most, since every step passes an opening; the flag tells whether the text starts at the start of a
line. -/
def segments (length : Nat) : Nat → Bool → List Char → List Segment
  | 0, _, _ => []
  | fuel + 1, atLineStart, cs =>
    match cut cs with
    | (text, none) => [.text text]
    | (text, some (k, rest)) =>
      let (margin, rest) := readMargin rest
      let before := Segment.text (margin.trim k atLineStart text)
      match k with
      | .value =>
        let (ts, after) := tokens length k (rest.length + 1) [] false rest
        before :: .value ts :: segments length fuel (endsLine rest after) after
      | .tag =>
        let (ts, after) := tokens length k (rest.length + 1) [] false rest
        before :: .tag ts :: segments length fuel (endsLine rest after) after
      | .comment =>
        if rest.isEmpty then [before]
        else
          match afterComment? rest with
          | none => [before, .fault .unclosedComment]
          | some after => before :: segments length fuel (endsLine rest after) after

/-- The segments of a source, whose line ends are newlines first. -/
def Segment.ofSource (source : String) : List Segment :=
  let cs := normalizeNewlines source.toList
  segments cs.length (cs.length + 1) true cs

end JavaScribe.Template
