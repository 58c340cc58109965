import JavaScribe.Import.Set

/-!
# Import listings

The import section of a file.  Packages whose types need no import are left out, and a package of
which more types are imported than a threshold allows is imported as a whole.  The declarations are
then written in order, an empty line between the groups that the prefixes of their packages form.

Resolving works on any enumeration of a set, and what is written does not depend on which one.
-/

set_option autoImplicit false

namespace JavaScribe

namespace ImportEntry

/-- Whether an entry imports a single type that is not in one of the given packages. -/
def isOrdinary (implicit : List String) (e : ImportEntry) : Bool :=
  !e.isStatic && !e.wildcard && !implicit.contains e.package

/-- The packages of which more types are imported than the threshold allows. -/
def crowdedPackages (threshold : Int) (implicit : List String) (es : List ImportEntry) :
    List String :=
  let packages := (es.filter (isOrdinary implicit)).map ImportEntry.package
  packages.eraseDups.filter fun p => threshold < (packages.count p : Int)

/-- The import section of an enumerated set, before it is put in order. -/
def selected (threshold : Int) (implicit : List String) (es : List ImportEntry) :
    List ImportEntry :=
  let crowded := crowdedPackages threshold implicit es
  crowded.map wholePackage ++
    es.filter fun e =>
      e.isStatic || (!implicit.contains e.package && !crowded.contains e.package)

/-- The import section of an enumerated set. -/
def resolve (threshold : Int) (implicit : List String) (es : List ImportEntry) :
    List ImportEntry :=
  (selected threshold implicit es).mergeSort precedes

/-- The group of a package: the first prefix that it starts with, or nothing. -/
def groupOf (prefixes : List String) (package : String) : String :=
  (prefixes.find? fun p => p.toList.isPrefixOf package.toList).getD ""

/-- The lines of entries that come after one of a given group; a new group opens with an empty
line. -/
def linesAfter (prefixes : List String) (last : String) : List ImportEntry → List String
  | [] => []
  | e :: es =>
    let group := groupOf prefixes e.package
    if group = last then e.text :: linesAfter prefixes group es
    else "" :: e.text :: linesAfter prefixes group es

/-- The lines of an import section, the groups separated by an empty line. -/
def lines (prefixes : List String) : List ImportEntry → List String
  | [] => []
  | e :: es => e.text :: linesAfter prefixes (groupOf prefixes e.package) es

end ImportEntry

namespace ImportSet

/-- The section of a set: its entries in order, with crowded packages imported as a whole. -/
def resolve (s : ImportSet) (threshold : Int) (implicit : List String) : List ImportEntry :=
  ImportEntry.resolve threshold implicit s.entries

end ImportSet

end JavaScribe
