/-!
# Tables

A table maps keys to values and remembers the order in which its keys first came.
-/

set_option autoImplicit false

namespace JavaScribe

/-- Pairs of a key and a value, in order. -/
abbrev Table (α : Type) := List (String × α)

namespace Table

variable {α : Type}

/-- Sets the value of a key: a key that is present keeps its place, a new one goes to the end. -/
def put : Table α → String → α → Table α
  | [], k, v => [(k, v)]
  | (l, w) :: t, k, v => if l = k then (k, v) :: t else (l, w) :: put t k v

/-- The table with the entries of another one put into it, in turn. -/
def putAll (t u : Table α) : Table α := u.foldl (fun acc e => acc.put e.1 e.2) t

/-- The value of a key. -/
def get? (t : Table α) (k : String) : Option α := t.lookup k

/-- Whether there is a key. -/
def has (t : Table α) (k : String) : Bool := t.any (·.1 == k)

/-- After a value was put at a key it is found there, and at other keys nothing has changed. -/
theorem get?_put (t : Table α) (k l : String) (v : α) :
    (t.put k v).get? l = if l = k then some v else t.get? l := by
  induction t with
  | nil =>
    by_cases h : l = k
    · simp [put, get?, h]
    · simp [put, get?, h, List.lookup_cons, beq_eq_false_iff_ne.2 h]
  | cons e t ih =>
    obtain ⟨m, w⟩ := e
    simp only [get?] at ih
    by_cases hm : m = k
    · subst hm
      by_cases h : l = m
      · simp [put, get?, h]
      · simp [put, get?, List.lookup_cons, h, beq_eq_false_iff_ne.2 h]
    · by_cases h : l = m
      · subst h
        simp [put, get?, hm]
      · simp [put, get?, hm, List.lookup_cons, beq_eq_false_iff_ne.2 h, ih]

/-- A key is there just if it has a value. -/
theorem has_iff (t : Table α) (k : String) : t.has k = true ↔ ∃ v, t.get? k = some v := by
  induction t with
  | nil => simp [has, get?]
  | cons e t ih =>
    obtain ⟨m, w⟩ := e
    simp only [has, get?] at ih
    by_cases h : k = m
    · simp [has, get?, h]
    · simp [has, get?, List.lookup_cons, beq_eq_false_iff_ne.2 h, Ne.symm h, ih]

/-- The table without a key. -/
def erase (t : Table α) (k : String) : Table α := t.filter (·.1 != k)

/-- The values, in the order of their keys. -/
def values (t : Table α) : List α := t.map (·.2)

end Table

end JavaScribe
