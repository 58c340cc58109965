import JavaScribe.File.Path

/-!
# Files

Files and directories form one tree.  A path is followed name by name, so that it leads nowhere as
soon as one of its names is missing, even if two dots come after it.  Every location on the way to
a file is a directory itself.
-/

set_option autoImplicit false

namespace JavaScribe

/-- What a path leads to. -/
inductive FileNode where
  | directory
  | text (content : String)
  | bytes (content : ByteArray)

/-- Why a path cannot be followed or written to. -/
inductive PathFault where
  | missing
  /-- The path or one of its names is longer than they may be. -/
  | tooLong
  | nullCharacter
  /-- There is a directory where a file is to be written. -/
  | occupied
deriving DecidableEq, Repr

/-- A tree of files and directories. -/
structure Storage where
  /-- The names that lead from the root to the working directory. -/
  working : List String
  nodes : List (List String × FileNode)

namespace Storage

/-- The number of bytes that a single name may have. -/
def longestName : Nat := 255

/-- The number of bytes that a whole path may have. -/
def longestPath : Nat := 4095

/-- Nothing but the directories down to the working directory. -/
def empty (working : List String) : Storage := ⟨working, []⟩

/-- Whether there is a directory at a location: the working directory, one around it or around a
file, or one by itself. -/
def isDirectory (s : Storage) (location : List String) : Bool :=
  location.isPrefixOf s.working ||
    s.nodes.any fun n =>
      (location.isPrefixOf n.1 && location.length < n.1.length) ||
        (n.1 == location && match n.2 with
          | .directory => true
          | _ => false)

/-- What there is at a location. -/
def nodeAt? (s : Storage) (location : List String) : Option FileNode :=
  if s.isDirectory location then some .directory else s.nodes.lookup location

/-- The location that names lead to from a location. -/
def walk (s : Storage) (here : List String) : List String → Except PathFault (List String)
  | [] => .ok here
  | name :: names =>
    if !s.isDirectory here then .error .missing
    else if longestName < name.utf8ByteSize then .error .tooLong
    else if name = ".." then s.walk here.dropLast names
    else if (s.nodeAt? (here ++ [name])).isSome then s.walk (here ++ [name]) names
    else .error .missing

/-- The location that a path starts at. -/
def start (s : Storage) (p : FilePath) : List String := if p.slashes = 0 then s.working else []

/-- The location that a path leads to. -/
def resolve (s : Storage) (p : FilePath) : Except PathFault (List String) :=
  if p.text.toList.contains '\x00' then .error .nullCharacter
  else if longestPath < p.text.utf8ByteSize then .error .tooLong
  else s.walk (s.start p) p.parts

/-- What a path leads to. -/
def find (s : Storage) (p : FilePath) : Except PathFault FileNode := do
  let location ← s.resolve p
  match s.nodeAt? location with
  | some n => .ok n
  | none => .error .missing

/-- Puts a file at a location, in the place of what was there. -/
def store (s : Storage) (location : List String) (n : FileNode) : Storage :=
  { s with nodes := (location, n) :: s.nodes.filter fun m => m.1 != location }

/-- Follows names from a location, and makes the directories that are missing. -/
def enter (s : Storage) (here : List String) : List String → Storage × List String
  | [] => (s, here)
  | name :: names =>
    if name = ".." then s.enter here.dropLast names
    else
      let next := here ++ [name]
      (if (s.nodeAt? next).isSome then s else s.store next .directory).enter next names

/-- Puts something at a path, and makes the directories on the way that are missing. -/
def put (s : Storage) (p : FilePath) (n : FileNode) : Storage :=
  match p.parts.getLast? with
  | none => s
  | some name =>
    let (s, directory) := s.enter (s.start p) p.parts.dropLast
    s.store (directory ++ [name]) n

/-- Writes a text file.  Its directory must exist, and there must be no directory in its place. -/
def write (s : Storage) (p : FilePath) (content : String) : Except PathFault Storage :=
  match s.resolve p with
  | .ok location =>
    if s.isDirectory location then .error .occupied else .ok (s.store location (.text content))
  | .error .missing =>
    match s.resolve ⟨p.slashes, p.parts.dropLast⟩, p.parts.getLast? with
    | .ok directory, some name =>
      if s.isDirectory directory then .ok (s.store (directory ++ [name]) (.text content))
      else .error .missing
    | _, _ => .error .missing
  | .error e => .error e

/-- The text files in and below the directory at a path, by the path that leads on to them. -/
def textsBelow (s : Storage) (p : FilePath) : List (String × String) :=
  match s.resolve p with
  | .error _ => []
  | .ok location =>
    s.nodes.filterMap fun n =>
      match n.2 with
      | .text content =>
        if location.isPrefixOf n.1 then
          some ("/".intercalate (n.1.drop location.length), content)
        else none
      | _ => none

end Storage

end JavaScribe
