import JavaScribe.Template.Basic
import JavaScribe.Text.Plain

/-!
# Scopes of templates

A template is a frame for the names that are read in it, and a block that goes through a value is a
frame of its own for each item.  When a frame is entered, the names that are read in it, and in no
frame around it, are looked up in the context in the order in which they come.

A frame keeps what it has found in places, and names with the same letters share a place.  So what
is looked up last counts for all of them, even for the name of an item.
-/

set_option autoImplicit false

namespace JavaScribe

/-- What the names of a template stand for. -/
abbrev Context := List (String × Value)

namespace Context

/-- What a name stands for in every frame, unless the frame gives it a meaning. -/
def find? (c : Context) (name : String) : Option Value :=
  (c.lookup name).or (Value.tools.lookup name)

/-- The word for the template itself. -/
def selfName : String := "self"

/-- The word for the state of the block that goes through a value. -/
def progressName : String := "loop"

end Context

/-- What names mean in a part of a template. -/
structure Frame where
  /-- The names that the frame itself gives a meaning to. -/
  given : List (String × Value)
  /-- The names that were looked up, in order, with what was found. -/
  found : List (String × Option Value)

namespace Frame

/-- The names of the frame in the order in which they got a meaning. -/
def meanings (f : Frame) : List (String × Option Value) :=
  f.given.map (fun g => (g.1, some g.2)) ++ f.found

/-- Whether a name has a meaning in the frame. -/
def has (f : Frame) (name : String) : Bool := f.meanings.any (·.1 == name)

/-- Whether the frame itself gives a meaning to the name. -/
def gives (f : Frame) (name : String) : Bool := f.given.any (·.1 == name)

/-- What the place of a name holds. -/
def held? (f : Frame) (name : String) : Option Value :=
  -- names with the same letters share a place, and the last one was put there
  (f.meanings.reverse.find? fun m => Text.sameLetters m.1 name).bind (·.2)

/-- The value of a name. A name whose place holds nothing is missing if the frame gives it, and
undefined if not. -/
def get (f : Frame) (name : String) : Except TemplateFault Value :=
  match f.held? name with
  | some v => .ok v
  | none => if f.gives name then .ok Value.missing else .error (.undefinedName name)

end Frame

/-- The frames around a part of a template, the innermost first. -/
abbrev Scope := List Frame

namespace Scope

/-- What a name stands for. -/
def get (s : Scope) (name : String) : Except TemplateFault Value :=
  match s.find? (·.has name) with
  | some f => f.get name
  | none => .error (.undefinedName name)

/-- The scope inside a frame that gives meanings to some names and in which names are read. -/
def enter (s : Scope) (c : Context) (given : List (String × Value)) (reads : List String) : Scope :=
  let isNew (name : String) : Bool := !given.any (·.1 == name) && !s.any (·.has name)
  ⟨given, (reads.filter isNew).eraseDups.map fun name => (name, c.find? name)⟩ :: s

end Scope

end JavaScribe
