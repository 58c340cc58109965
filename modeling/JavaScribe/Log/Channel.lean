import JavaScribe.Text.Quoted

/-!
# Log channels

Channels are named below a root, so that one setting governs them all.  Setting up the log gives
the root a level, by number or by name, and installs a handler if there is none yet.
-/

set_option autoImplicit false

namespace JavaScribe.Log

/-- The name of a channel: a name that is not the root or below it is put below it. -/
def channelName (root name : String) : String :=
  if name = root || (root ++ ".").toList.isPrefixOf name.toList then name
  else root ++ "." ++ name

/-- The numbers of the levels that have names. -/
def levelNumbers : List (String × Int) :=
  [("CRITICAL", 50), ("FATAL", 50), ("ERROR", 40), ("WARN", 30), ("WARNING", 30), ("INFO", 20),
    ("DEBUG", 10), ("NOTSET", 0)]

/-- A level as it is asked for. -/
inductive LevelChoice where
  | number (n : Int)
  | name (s : String)
deriving DecidableEq, Repr

/-- There is no level of the name. -/
structure UnknownLevel where
  name : String
deriving DecidableEq, Repr

/-- The message for a level that there is not. -/
def UnknownLevel.message (e : UnknownLevel) : String := "Unknown level: " ++ Text.quote e.name

/-- The number of the level that is chosen by a number or by a name. -/
def LevelChoice.resolve : LevelChoice → Except UnknownLevel Int
  | .number n => .ok n
  | .name s =>
    match levelNumbers.lookup s with
    | some n => .ok n
    | none => .error ⟨s⟩

/-- How the log is set up. -/
structure Setup where
  level : Int
  handlers : Nat
deriving DecidableEq, Repr

/-- A log that tells everything and that no handler shows. -/
def Setup.initial : Setup := ⟨10, 0⟩

/-- Sets the level, and installs the handler unless it is there. -/
def Setup.configure (s : Setup) (choice : LevelChoice) : Except UnknownLevel Setup :=
  match choice.resolve with
  | .ok level => .ok ⟨level, if s.handlers = 0 then 1 else s.handlers⟩
  | .error e => .error e

end JavaScribe.Log
