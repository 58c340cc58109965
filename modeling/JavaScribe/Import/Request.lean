import JavaScribe.Import.Listing

/-!
# Requests to an import set

Entries are put into the import set of a file, one by one or for the types that are mentioned, and
the import section of the file is asked for.  Every request is answered from the set as it is and
hands on the set that comes after it.
-/

set_option autoImplicit false

namespace JavaScribe.ImportSet

/-- What can be asked of an import set. -/
inductive Request where
  | add (e : ImportEntry)
  | register (t : TypeExpr)
  | contains (e : ImportEntry)
  | resolve (threshold : Int) (implicit : List String)
  | lines (threshold : Int) (implicit prefixes : List String)

/-- What a request to a set is answered. -/
inductive Answer where
  | verdict (holds : Bool)
  | done
  | entries (es : List ImportEntry)
  | lines (texts : List String)
deriving DecidableEq

/-- The answer to a request, and the set after it. -/
def handle (s : ImportSet) : Request → Answer × ImportSet
  | .add e => (.verdict (s.accepts e), s.add e)
  | .register t => (.done, s.register t)
  | .contains e => (.verdict (s.entries.contains e), s)
  | .resolve threshold implicit => (.entries (s.resolve threshold implicit), s)
  | .lines threshold implicit prefixes =>
    (.lines (ImportEntry.lines prefixes (s.resolve threshold implicit)), s)

/-- The set after several requests. -/
def handleAll (s : ImportSet) (requests : List Request) : ImportSet :=
  requests.foldl (fun s r => (s.handle r).2) s

end JavaScribe.ImportSet
