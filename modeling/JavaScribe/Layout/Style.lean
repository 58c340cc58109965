import JavaScribe.Text.Extent

/-!
# Style

How source text is laid out: the unit of indentation and the width of the banners that open a
section.  A banner is three comment lines; its title is cut to the room between its frame.
-/

set_option autoImplicit false

namespace JavaScribe

/-- How source text is laid out. -/
structure Style where
  indentUnit : String
  bannerWidth : Int
deriving DecidableEq, Repr

namespace Style

/-- A run of the character that banners are drawn with; nothing if the length is negative. -/
def hashes (length : Int) : String := String.ofList (List.replicate length.toNat '#')

/-- The title of a banner, cut to the room that the width leaves for it. -/
def bannerTitle (s : Style) (title indent : String) : String :=
  String.ofList (title.toList.take (s.bannerWidth - indent.length - 6).toNat)

/-- The line above and below the title of a banner. -/
def bannerRule (s : Style) (indent : String) : String :=
  indent ++ "// " ++ hashes (s.bannerWidth - indent.length - 3)

/-- What keeps a banner from being written out. -/
def bannerOversize? (l : Text.Limits) (s : Style) (indent : String) : Option Text.Oversize :=
  Text.oversize? l 1 (max 0 (s.bannerWidth - indent.length - 3))

/-- The line of a banner that holds the title, filled up with the character that banners are drawn
with. -/
def bannerCaption (s : Style) (title indent : String) : String :=
  let shown := s.bannerTitle title indent
  indent ++ "// # " ++ shown ++ " " ++ hashes (s.bannerWidth - indent.length - shown.length - 6)

/-- The three lines of a banner. -/
def banner (s : Style) (title indent : String) : List String :=
  [s.bannerRule indent, s.bannerCaption title indent, s.bannerRule indent]

end Style

end JavaScribe
