import JavaScribe.Json.Printer

/-!
# Values as collections

Besides an array, a text and an object have parts: its characters and its keys.  A value whose
parts have two parts each can take the place of an object, the first of the two being the key.

Such a key need not be a text.  Numbers and truth values are keys too, and two of them are the same
key if they are equal as numbers, where true counts as one and false as zero.
-/

set_option autoImplicit false

namespace JavaScribe.Json

/-- The parts of a value, if it has any. -/
def parts? : Json → Option (List Json)
  | string s => some (s.toList.map fun c => string (String.ofList [c]))
  | array items => some items
  | object fields => some (fields.map fun f => string f.1)
  | _ => none

/-- A key as it is written; a collection is no key. -/
def keyText? : Json → Option String
  | null => some "null"
  | bool b => some (if b then "true" else "false")
  | int n => some (toString n)
  | real x => some (realText x)
  | string s => some s
  | _ => none

/-- What a key is compared by. -/
def keyValue : Json → Json
  | bool b => int (if b then 1 else 0)
  | real x =>
    match x.integer? with
    | some n => int n
    | none => real x
  | j => j

/-- Keys with their values, in the order in which the keys first came. -/
abbrev Entries := List (Json × Json)

namespace Entries

/-- Sets the value of a key: a key that is present stays as it is, a new one goes to the end. -/
def put : Entries → Json → Json → Entries
  | [], k, v => [(k, v)]
  | (l, w) :: es, k, v => if l.keyValue = k.keyValue then (l, v) :: es else (l, w) :: put es k v

/-- The entries with further ones put into them, in turn. -/
def putAll (es more : Entries) : Entries := more.foldl (fun acc e => acc.put e.1 e.2) es

/-- The value of a text as a key. -/
def get? (es : Entries) (k : String) : Option Json :=
  (es.find? fun e => e.1 == string k).map (·.2)

/-- The fields of an object as entries, whose keys are texts. -/
def ofFields (fs : Fields) : Entries := fs.map fun f => (string f.1, f.2)

/-- The fields of an object with the entries, if all their keys are texts. -/
def fields? (es : Entries) : Option Fields :=
  es.mapM fun e =>
    match e.1 with
    | string k => some (k, e.2)
    | _ => none

/-- The entries with their keys as they are written.  Different keys may be written alike. -/
def written (es : Entries) : List (String × Json) :=
  es.filterMap fun e => e.1.keyText?.map fun k => (k, e.2)

/-- Putting a text as key into entries is putting it into fields. -/
theorem put_ofFields (fs : Fields) (k : String) (v : Json) :
    put (ofFields fs) (string k) v = ofFields (Table.put fs k v) := by
  induction fs with
  | nil => rfl
  | cons f fs ih =>
    obtain ⟨l, w⟩ := f
    by_cases h : l = k
    · simp [ofFields, put, Table.put, keyValue, h]
    · simpa [ofFields, put, Table.put, keyValue, h] using ih

/-- Putting fields into fields as entries is putting them in as fields. -/
theorem putAll_ofFields (fs more : Fields) :
    putAll (ofFields fs) (ofFields more) = ofFields (Table.putAll fs more) := by
  induction more generalizing fs with
  | nil => rfl
  | cons f more ih =>
    have h := ih (Table.put fs f.1 f.2)
    rw [← put_ofFields] at h
    exact h

/-- Entries that come from fields can be read as these fields. -/
theorem fields?_ofFields (fs : Fields) : (ofFields fs).fields? = some fs := by
  induction fs with
  | nil => rfl
  | cons f fs ih => simp_all [ofFields, fields?]

/-- Entries that come from fields are written as these fields. -/
theorem written_ofFields (fs : Fields) : (ofFields fs).written = fs := by
  induction fs with
  | nil => rfl
  | cons f fs ih => simp_all [ofFields, written, keyText?]

/-- A text is looked up in entries from fields as in the fields themselves. -/
theorem get?_ofFields (fs : Fields) (k : String) : (ofFields fs).get? k = fs.get? k := by
  induction fs with
  | nil => rfl
  | cons f fs ih =>
    obtain ⟨l, w⟩ := f
    by_cases h : l = k
    · simp [ofFields, get?, Table.get?, h]
    · have hk : (k == l) = false := beq_eq_false_iff_ne.2 (Ne.symm h)
      have hl : (string l == string k) = false := by simp [h]
      simp only [ofFields, get?, Table.get?, List.map_cons, List.find?_cons, hl, List.lookup_cons,
        hk] at ih ⊢
      exact ih

end Entries

/-- Why a value cannot take the place of an object. -/
inductive EntryFault where
  /-- The value or one of its parts has no parts, or a collection is to be a key. -/
  | unusable
  /-- The part at the position has another number of parts than two. -/
  | notPair (position length : Nat)
deriving DecidableEq, Repr

/-- The message of a fault in entries. -/
def EntryFault.message : EntryFault → String
  | .unusable => "The value does not consist of entries"
  | .notPair position length =>
    "dictionary update sequence element #" ++ toString position ++ " has length " ++
      toString length ++ "; 2 is required"

/-- The entry that a value of two parts stands for. -/
def entry (position : Nat) (j : Json) : Except EntryFault (Json × Json) :=
  match j.parts? with
  | some [key, value] => if key.keyText?.isSome then .ok (key, value) else .error .unusable
  | some parts => .error (.notPair position parts.length)
  | none => .error .unusable

/-- The entries that values from a position on stand for. -/
def entriesFrom (position : Nat) : List Json → Except EntryFault Entries
  | [] => .ok []
  | j :: js => do
    let first ← entry position j
    let rest ← entriesFrom (position + 1) js
    return first :: rest

/-- The entries of an object, or of what takes its place. -/
def entries : Json → Except EntryFault Entries
  | object fields => .ok (.ofFields fields)
  | j =>
    match j.parts? with
    | some parts => (entriesFrom 0 parts).map (Entries.putAll [])
    | none => .error .unusable

end JavaScribe.Json
