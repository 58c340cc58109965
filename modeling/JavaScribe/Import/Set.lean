import JavaScribe.Import.Entry

/-!
# Import sets

The imports that the declarations of a file need.  A type of the file's own package needs none.
The import of a whole package takes the place of the single imports of that package, those already
there and those to come; static imports stand apart from this and always stay.
-/

set_option autoImplicit false

namespace JavaScribe

/-- The imports of a file in a package, without repetition. -/
structure ImportSet where
  package : String
  entries : List ImportEntry
  nodup : entries.Nodup
deriving DecidableEq

namespace ImportSet

/-- The set of a package, as yet without entries. -/
def empty (package : String) : ImportSet := ⟨package, [], .nil⟩

/-- Removes every entry of a package that is not static. -/
def clearPackage (s : ImportSet) (package : String) : ImportSet :=
  ⟨s.package, s.entries.filter fun e => e.isStatic || e.package != package, s.nodup.filter _⟩

/-- Puts an entry into the set as it is. -/
def store (s : ImportSet) (e : ImportEntry) : ImportSet :=
  if h : e ∈ s.entries then s
  else ⟨s.package, s.entries ++ [e], List.nodup_append.2
    ⟨s.nodup, by simp, fun _ ha _ hb => by
      rw [List.mem_singleton] at hb
      exact fun he => h (hb ▸ he ▸ ha)⟩⟩

/-- After an entry was stored, the entries are those before and the new one. -/
@[simp]
theorem mem_store (s : ImportSet) (e f : ImportEntry) :
    f ∈ (s.store e).entries ↔ f = e ∨ f ∈ s.entries := by
  unfold store
  split
  · next h => exact ⟨Or.inr, fun hf => hf.elim (fun he => he ▸ h) id⟩
  · simp [or_comm]

/-- Whether the set takes an entry: a static one always, any other unless it is of the file's own
package or a single import of a package that is imported as a whole. -/
def accepts (s : ImportSet) (e : ImportEntry) : Bool :=
  e.isStatic ||
    -- only the import that was made for a whole package counts here, not any wildcard
    (e.package != s.package &&
      (e.wildcard || !s.entries.contains (ImportEntry.wholePackage e.package)))

/-- Adds an entry, unless it is not accepted; the import of a whole package takes the place of all
single ones of the package. -/
def add (s : ImportSet) (e : ImportEntry) : ImportSet :=
  if s.accepts e then
    (if !e.isStatic && e.wildcard then s.clearPackage e.package else s).store e
  else s

/-- Adds entries in turn. -/
def addAll (s : ImportSet) (es : List ImportEntry) : ImportSet := es.foldl add s

/-- Adds what the mention of each of the types needs. -/
def addMentions (s : ImportSet) (ns : List TypeName) : ImportSet :=
  s.addAll (ns.map ImportEntry.ofTypeName)

/-- Adds what the mention of a type needs. -/
def register (s : ImportSet) (t : TypeExpr) : ImportSet := s.addMentions t.mentions

end ImportSet

end JavaScribe
