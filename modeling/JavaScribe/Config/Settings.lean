import JavaScribe.Config.Basic
import JavaScribe.Json.Shown
import JavaScribe.Layout.Style
import JavaScribe.Text.Extent

/-!
# Typed settings

The settings of a configuration with the types that they are used with.  A value that is of no use
for its setting is a misfit, for which the default stands in.  Wherever texts are asked for, the
parts of any value serve that are texts.  Validation tells which values are legal and yet hardly
meant.
-/

set_option autoImplicit false

namespace JavaScribe

/-- The settings that a source file is written with. -/
structure Settings where
  indentSize : Int
  useTabs : Bool
  lineEnding : String
  wildcardThreshold : Int
  implicitPackages : List String
  groupPrefixes : List String
  bannerWidth : Int
  /-- The header of a file, a text in every sensible configuration. -/
  copyrightHeader : Json
deriving DecidableEq

namespace Json

/-- The value as an integer; truth values count as one and zero. -/
def asInt? : Json → Option Int
  | int n => some n
  | bool b => some (if b then 1 else 0)
  | _ => none

/-- The greatest integer that is not above the value, if it can be compared with integers. -/
def floor? : Json → Option Int
  | real x => some x.floor
  | j => j.asInt?

/-- The text that a value is. -/
def asText? : Json → Option String
  | string s => some s
  | _ => none

/-- Whether the value has parts itself. -/
def isCollection : Json → Bool
  | array _ => true
  | object _ => true
  | _ => false

end Json

/-- Whether a value is of use for a setting. -/
def Setting.fits (s : Setting) (j : Json) : Bool :=
  match s with
  | .indentSize | .bannerWidth => j.asInt?.isSome
  | .wildcardThreshold => j.floor?.isSome
  | .useTabs | .copyrightHeader => true
  | .lineEnding => j.asText?.isSome
  | .implicitPackages => j.parts?.any fun parts => parts.all fun p => !p.isCollection
  | .groupPrefixes => j.parts?.any fun parts => parts.all fun p => p.asText?.isSome

namespace Config

/-- The settings whose values are of no use. -/
def misfits (c : Config) : List Setting := Setting.all.filter fun s => !s.fits (c.value s)

/-- The integer that a setting has, or else that of its default. -/
def int (c : Config) (s : Setting) : Int := ((c.value s).asInt?.or s.default.asInt?).getD 0

/-- The parts that a setting has. -/
def parts (c : Config) (s : Setting) : List Json := (c.value s).parts?.getD []

/-- The typed settings of a configuration.  Of group prefixes only those in front of the first
misfit can be tried. -/
def settings (c : Config) : Settings where
  indentSize := c.int .indentSize
  useTabs := !(c.value .useTabs).isFalsy
  lineEnding := ((c.value .lineEnding).asText?.or Setting.lineEnding.default.asText?).getD ""
  wildcardThreshold :=
    ((c.value .wildcardThreshold).floor?.or Setting.wildcardThreshold.default.floor?).getD 0
  implicitPackages := (c.parts .implicitPackages).filterMap Json.asText?
  groupPrefixes :=
    ((c.parts .groupPrefixes).takeWhile fun p => p.asText?.isSome).filterMap Json.asText?
  bannerWidth := c.int .bannerWidth
  copyrightHeader := c.value .copyrightHeader

/-- The narrowest banner that has room for a short title at the usual depths. -/
def narrowestBanner : Int := 40

/-- A warning, if there is reason for it. -/
def warnIf (doubtful : Bool) (warning : String) : List String :=
  if doubtful then [warning] else []

/-- The warning that an integer is below a bound. -/
def warnBelow (c : Config) (s : Setting) (bound : Int) (warning : String) :
    Except Setting (List String) :=
  match (c.value s).floor? with
  | some n => .ok (warnIf (n < bound) (warning ++ ": " ++ (c.value s).shown))
  | none => .error s

/-- Warnings of values that are hardly meant, or the first setting whose value cannot be judged.
A line ending of any kind can, unless it is a collection. -/
def warnings (c : Config) : Except Setting (List String) := do
  let indentSize ← c.warnBelow .indentSize 1 "Invalid indent_size"
  let threshold ← c.warnBelow .wildcardThreshold 1 "Invalid wildcard_import_threshold"
  let ending := c.value .lineEnding
  if ending.isCollection then throw .lineEnding
  let bannerWidth ← c.warnBelow .bannerWidth narrowestBanner "banner_width too narrow"
  match (c.value .groupPrefixes).parts? with
  | none => throw .groupPrefixes
  | some prefixes =>
    return (if (c.value .useTabs).isFalsy then indentSize else []) ++ threshold ++
      warnIf (ending != .string "\n" && ending != .string "\r\n")
        ("Unusual line_ending: " ++ ending.quoted) ++
      bannerWidth ++
      prefixes.flatMap fun p => warnIf p.isFalsy "Empty entry in import_group_prefixes"

end Config

namespace Settings

/-- A level of indentation; a negative size is none. -/
def indent (s : Settings) : String :=
  if s.useTabs then "\t" else String.ofList (List.replicate s.indentSize.toNat ' ')

/-- What keeps a level of indentation from being written out. -/
def indentOversize? (l : Text.Limits) (s : Settings) : Option Text.Oversize :=
  if s.useTabs then none else Text.oversize? l 1 s.indentSize

/-- How source text is laid out with these settings. -/
def style (s : Settings) : Style := ⟨s.indent, s.bannerWidth⟩

end Settings

end JavaScribe
