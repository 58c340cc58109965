/-!
# Paths of files

A path is a list of names that lead on from the root of all files or from the working directory.
Empty names and single dots in the text of a path count for nothing.  Two dots stay in the path,
for only the files themselves tell where they lead.
-/

set_option autoImplicit false

namespace JavaScribe

/-- A path as the parts between its slashes. -/
structure FilePath where
  /-- The number of slashes in front: none in a path that starts at the working directory, and
  two in a path that was written with exactly two. -/
  slashes : Nat
  parts : List String
deriving DecidableEq, Repr

namespace FilePath

/-- How many slashes in front of a path are kept; of three or more, only one is. -/
def keptSlashes : Nat → Nat
  | 0 => 0
  | 2 => 2
  | _ => 1

/-- The path that a text stands for; empty parts and single dots do not count. -/
def ofText (text : String) : FilePath where
  slashes := keptSlashes (text.toList.takeWhile (· == '/')).length
  parts := ((text.toList.splitOn '/').map String.ofList).filter fun p => p != "" && p != "."

/-- The path that a text names if it is read in the directory of another path. -/
def join (p : FilePath) (text : String) : FilePath :=
  let q := ofText text
  if q.slashes = 0 then ⟨p.slashes, p.parts ++ q.parts⟩ else q

/-- The path as it is written; the working directory itself is a dot. -/
def text (p : FilePath) : String :=
  if p.slashes = 0 && p.parts.isEmpty then "."
  else String.ofList (List.replicate p.slashes '/') ++ "/".intercalate p.parts

/-- The part of a file name from its last dot; a name that starts or ends with its only dot has
none. -/
def suffixOf (name : List Char) : List Char :=
  let ending := (name.reverse.takeWhile (· != '.')).reverse
  let stem := name.take (name.length - ending.length - 1)
  if ending.length < name.length && !stem.isEmpty && !ending.isEmpty then '.' :: ending else []

/-- The end of the last part from its last dot on. -/
def suffix (p : FilePath) : String := String.ofList (suffixOf (p.parts.getLastD "").toList)

end FilePath

end JavaScribe
