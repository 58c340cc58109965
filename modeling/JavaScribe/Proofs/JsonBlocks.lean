import JavaScribe.Proofs.JsonNumerals
import JavaScribe.Proofs.JsonStrings
import JavaScribe.Proofs.TableKeys

/-!
# Reading the block layout

The block layout of a plain value is read back as that value: the spaces in front of an item or a
field are skipped, and what follows a value cannot be taken for a part of it.
-/

set_option autoImplicit false

namespace JavaScribe.Json

mutual
/-- Whether the value has no floating-point number, no integer that is too long to be read, and no
object with a key twice. -/
def isPlain : Json → Bool
  | null => true
  | bool _ => true
  | int n => decide ((digitsOf n).length ≤ Text.digitLimit)
  | real _ => false
  | string _ => true
  | array items => arePlain items
  | object fields => decide (Table.keys fields).Nodup && fieldsPlain fields

/-- Whether all values of a list are plain. -/
def arePlain : List Json → Bool
  | [] => true
  | item :: items => isPlain item && arePlain items

/-- Whether the values of all fields are plain. -/
def fieldsPlain : List (String × Json) → Bool
  | [] => true
  | (_, value) :: fields => isPlain value && fieldsPlain fields
end

/-- What is no white space is not skipped. -/
theorem skipSpace_cons {c : Char} (h : isSpace c = false) (cs : List Char) :
    skipSpace (c :: cs) = c :: cs := by
  rw [skipSpace, List.dropWhile_cons_of_neg (by simp [h])]

/-- A new line is skipped. -/
theorem skipSpace_newlineAt (d : Nat) (cs : List Char) :
    skipSpace (newlineAt d ++ cs) = skipSpace cs := by
  have hspaces : ∀ c ∈ newlineAt d, isSpace c = true := by
    intro c hc
    rcases List.mem_cons.mp hc with rfl | hc
    · rfl
    · rw [List.eq_of_mem_replicate hc]
      rfl
  rw [skipSpace, List.dropWhile_append_of_pos hspaces, skipSpace]

/-- A plain value is written from a character on that is no white space and closes no array. -/
theorem blockChars_eq_cons (d : Nat) {j : Json} (h : j.isPlain = true) :
    ∃ c cs, blockChars d j = c :: cs ∧ isSpace c = false ∧ c ≠ ']' := by
  cases j with
  | null => exact ⟨_, _, rfl, by decide, by decide⟩
  | bool b => cases b <;> exact ⟨_, _, rfl, by decide, by decide⟩
  | int n =>
    obtain ⟨digit, digits, hcons, hdigit⟩ := digitsOf_eq_cons n
    have hspace : isSpace digit = false := by
      simp [isSpace, ne_of_isDigit _ hdigit]
    rw [blockChars, toString_eq_digitsOf, hcons]
    split
    · exact ⟨_, _, rfl, by decide, by decide⟩
    · exact ⟨_, _, rfl, hspace, ne_of_isDigit rfl hdigit⟩
  | real x => cases h
  | string s => exact ⟨_, _, rfl, by decide, by decide⟩
  | array items => cases items <;> exact ⟨_, _, rfl, by decide, by decide⟩
  | object fields => cases fields <;> exact ⟨_, _, rfl, by decide, by decide⟩

/-- No white space stands in front of a plain value. -/
theorem skipSpace_blockChars (d : Nat) {j : Json} (h : j.isPlain = true) (cs : List Char) :
    skipSpace (blockChars d j ++ cs) = blockChars d j ++ cs := by
  obtain ⟨c, block, hcons, hspace, -⟩ := blockChars_eq_cons d h
  rw [hcons, List.cons_append, skipSpace_cons hspace]

section Steps

variable {nesting fuel : Nat} {cs rest more : List Char} {item value : Json}

/-- What opens no text, array or object is read as a value without parts. -/
theorem readValue_scalar {c : Char} (h : c ≠ '[' ∧ c ≠ '\x7b' ∧ c ≠ '\x22') (cs : List Char) :
    readValue nesting (fuel + 1) (c :: cs) = readScalar (c :: cs) := by
  unfold readValue
  split <;> simp_all

/-- A written text stands between quotation marks. -/
theorem stringChars_append (s : String) (cs : List Char) :
    stringChars s ++ cs = '\x22' :: (s.toList.flatMap escapeChar ++ Text.doubleQuote :: cs) := by
  simp [stringChars, Text.doubleQuote]

/-- A written text is read back. -/
theorem readValue_string (s : String) (rest : List Char) :
    readValue nesting (fuel + 1) (stringChars s ++ rest) = .ok (string s, rest) := by
  rw [stringChars_append, readValue, readString_escaped]
  rfl

/-- An item with a comma behind it is read, and then the items after it. -/
theorem readItems_cons (hitem : readValue nesting fuel cs = .ok (item, ',' :: more)) :
    readItems nesting (fuel + 1) cs =
      (readItems nesting fuel (skipSpace more)).map fun r => (item :: r.1, r.2) := by
  have hcomma : skipSpace (',' :: more) = ',' :: more := skipSpace_cons (by decide) more
  rw [readItems, hitem]
  simp only [bind, Except.bind, hcomma]
  cases readItems nesting fuel (skipSpace more) <;> rfl

/-- An item with the closing bracket behind it is the last one. -/
theorem readItems_last (hitem : readValue nesting fuel cs = .ok (item, more))
    (hclose : skipSpace more = ']' :: rest) :
    readItems nesting (fuel + 1) cs = .ok ([item], rest) := by
  rw [readItems, hitem]
  simp only [bind, Except.bind, hclose]

/-- An array is read if its items are. -/
theorem readArray {c : Char} (hc : c ≠ ']') (hrest : skipSpace rest = c :: cs)
    {items : List Json} (hitems : readItems nesting fuel (c :: cs) = .ok (items, more)) :
    readValue (nesting + 1) (fuel + 1) ('[' :: rest) = .ok (array items, more) := by
  rw [readValue, hrest]
  split
  · rename_i heq
    exact absurd (List.cons.inj heq).1 hc
  · rw [hitems]
    rfl

/-- The colon after a key is read with the blank behind it. -/
theorem readColon_space (hcs : skipSpace cs = cs) : readColon (':' :: ' ' :: cs) = .ok cs := by
  have hcolon : skipSpace (':' :: ' ' :: cs) = ':' :: ' ' :: cs := skipSpace_cons (by decide) _
  have hspace : skipSpace (' ' :: cs) = skipSpace cs := List.dropWhile_cons_of_pos rfl
  rw [readColon, hcolon]
  simp only [hspace, hcs]

/-- A field with a comma behind it is read, and then the fields after it. -/
theorem readFields_cons (key : String) (hcs : skipSpace cs = cs)
    (hvalue : readValue nesting fuel cs = .ok (value, ',' :: more)) :
    readFields nesting (fuel + 1) (stringChars key ++ ':' :: ' ' :: cs) =
      (readFields nesting fuel (skipSpace more)).map fun r => ((key, value) :: r.1, r.2) := by
  have hcomma : skipSpace (',' :: more) = ',' :: more := skipSpace_cons (by decide) more
  rw [stringChars_append, readFields, readString_escaped]
  simp only [bind, Except.bind, readColon_space hcs, hvalue, hcomma]
  cases readFields nesting fuel (skipSpace more) <;> rfl

/-- A field with the closing brace behind it is the last one. -/
theorem readFields_last (key : String) (hcs : skipSpace cs = cs)
    (hvalue : readValue nesting fuel cs = .ok (value, more))
    (hclose : skipSpace more = '\x7d' :: rest) :
    readFields nesting (fuel + 1) (stringChars key ++ ':' :: ' ' :: cs) =
      .ok ([(key, value)], rest) := by
  rw [stringChars_append, readFields, readString_escaped]
  simp only [bind, Except.bind, readColon_space hcs, hvalue, hclose]

/-- An object is read if its fields are and no key is there twice. -/
theorem readObject {c : Char} (hc : c ≠ '\x7d') (hrest : skipSpace rest = c :: cs)
    {fields : Fields} (hfields : readFields nesting fuel (c :: cs) = .ok (fields, more))
    (hkeys : fields.keys.Nodup) :
    readValue (nesting + 1) (fuel + 1) ('\x7b' :: rest) = .ok (object fields, more) := by
  have hput : Table.putAll [] fields = fields := Table.putAll_eq_append (t := []) hkeys
  rw [readValue, hrest]
  split
  · rename_i heq
    exact absurd (List.cons.inj heq).1 hc
  · rw [hfields]
    simp only [bind, Except.bind, hput]

end Steps

/-- An integer is read back if it is not too long. -/
theorem readValue_toString {n : Int} (hlimit : (digitsOf n).length ≤ Text.digitLimit)
    {nesting fuel : Nat} {rest : List Char} (hrest : EndsNumber rest) :
    readValue nesting (fuel + 1) ((toString n).toList ++ rest) = .ok (int n, rest) := by
  have hread := readScalar_toString hlimit hrest
  obtain ⟨digit, digits, hcons, hdigit⟩ := digitsOf_eq_cons n
  rw [toString_eq_digitsOf, hcons] at hread ⊢
  by_cases hn : n < 0
  · rw [if_pos hn] at hread ⊢
    rw [List.cons_append, readValue_scalar (by decide)]
    exact hread
  · have hne : ∀ c : Char, c.isDigit = false → digit ≠ c := fun c hc => ne_of_isDigit hc hdigit
    rw [if_neg hn] at hread ⊢
    rw [List.cons_append, readValue_scalar ⟨hne _ rfl, hne _ rfl, hne _ rfl⟩]
    exact hread

/-- How long a new line is with its indentation. -/
theorem length_newlineAt (d : Nat) : (newlineAt d).length = 2 * d + 1 := by
  simp [newlineAt]

/-- A number ends at a new line. -/
theorem endsNumber_newlineAt (d : Nat) (cs : List Char) : EndsNumber (newlineAt d ++ cs) :=
  endsNumber_cons (by decide) _

/-- A number ends at a comma. -/
theorem endsNumber_comma (cs : List Char) : EndsNumber (',' :: cs) :=
  endsNumber_cons (by decide) cs

/-- White space in front of a closing character is skipped. -/
theorem skipSpace_closing (d : Nat) {c : Char} (hc : isSpace c = false) (cs : List Char) :
    skipSpace (newlineAt d ++ c :: cs) = c :: cs := by
  rw [skipSpace_newlineAt, skipSpace_cons hc]

/-- No white space stands in front of a written text. -/
theorem skipSpace_stringChars (s : String) (cs : List Char) :
    skipSpace (stringChars s ++ cs) = stringChars s ++ cs := by
  rw [stringChars_append, skipSpace_cons (by decide)]

/-- The items of an array start on a new line with the first one. -/
theorem exists_blockItems_eq (d : Nat) (item : Json) (items : List Json) :
    ∃ tail, blockItems d (item :: items) = newlineAt d ++ (blockChars d item ++ tail) := by
  cases items with
  | nil => exact ⟨[], by simp [blockItems]⟩
  | cons next items => exact ⟨',' :: blockItems d (next :: items), by simp [blockItems]⟩

/-- An array with items does not close at once. -/
theorem skipSpace_blockItems (d : Nat) {item : Json} (h : item.isPlain = true) (items : List Json)
    (cs : List Char) :
    ∃ c rest, skipSpace (blockItems d (item :: items) ++ cs) = c :: rest ∧ c ≠ ']' := by
  obtain ⟨c, block, hcons, hspace, hc⟩ := blockChars_eq_cons d h
  obtain ⟨tail, htail⟩ := exists_blockItems_eq d item items
  rw [htail, List.append_assoc, skipSpace_newlineAt, hcons]
  exact ⟨c, _, skipSpace_cons hspace _, hc⟩

/-- The fields of an object start on a new line with the first key. -/
theorem exists_blockFields_eq (d : Nat) (field : String × Json) (fields : Fields) :
    ∃ tail, blockFields d (field :: fields) = newlineAt d ++ (stringChars field.1 ++ tail) := by
  obtain ⟨key, value⟩ := field
  cases fields with
  | nil => exact ⟨':' :: ' ' :: blockChars d value, by simp [blockFields]⟩
  | cons next fields =>
    exact ⟨':' :: ' ' :: (blockChars d value ++ ',' :: blockFields d (next :: fields)), by
      simp [blockFields]⟩

/-- An object with fields goes on with a key. -/
theorem skipSpace_blockFields (d : Nat) (field : String × Json) (fields : Fields)
    (cs : List Char) :
    ∃ rest, skipSpace (blockFields d (field :: fields) ++ cs) = '\x22' :: rest := by
  obtain ⟨tail, htail⟩ := exists_blockFields_eq d field fields
  rw [htail, List.append_assoc, List.append_assoc, skipSpace_newlineAt, skipSpace_stringChars,
    stringChars_append]
  exact ⟨_, rfl⟩

mutual
/-- A plain value is read back from its block layout, whatever comes after it.  The steps suffice if
they are more than the characters of the layout: a collection takes one for its bracket, and each of
its parts one for the line break in front of it. -/
theorem readValue_blockChars : ∀ (j : Json) {d nesting fuel : Nat} {rest : List Char},
    j.isPlain = true → j.depth ≤ nesting → (blockChars d j).length < fuel → EndsNumber rest →
    readValue nesting fuel (blockChars d j ++ rest) = .ok (j, rest)
  | null, d, nesting, fuel, rest, _, _, hfuel, _ => by
    obtain ⟨fuel, rfl⟩ := Nat.exists_eq_add_one_of_ne_zero (Nat.ne_zero_of_lt hfuel)
    exact readValue_scalar (by decide) _
  | bool b, d, nesting, fuel, rest, _, _, hfuel, _ => by
    obtain ⟨fuel, rfl⟩ := Nat.exists_eq_add_one_of_ne_zero (Nat.ne_zero_of_lt hfuel)
    cases b <;> exact readValue_scalar (by decide) _
  | int n, d, nesting, fuel, rest, hplain, _, hfuel, hrest => by
    obtain ⟨fuel, rfl⟩ := Nat.exists_eq_add_one_of_ne_zero (Nat.ne_zero_of_lt hfuel)
    exact readValue_toString (of_decide_eq_true hplain) hrest
  | real x, d, nesting, fuel, rest, hplain, _, _, _ => by
    cases hplain
  | string s, d, nesting, fuel, rest, _, _, hfuel, _ => by
    obtain ⟨fuel, rfl⟩ := Nat.exists_eq_add_one_of_ne_zero (Nat.ne_zero_of_lt hfuel)
    exact readValue_string s rest
  | array [], d, nesting, fuel, rest, _, hdepth, hfuel, _ => by
    obtain ⟨fuel, rfl⟩ := Nat.exists_eq_add_one_of_ne_zero (Nat.ne_zero_of_lt hfuel)
    obtain ⟨nesting, rfl⟩ := Nat.exists_eq_add_one_of_ne_zero (Nat.ne_zero_of_lt hdepth)
    rfl
  | array (item :: items), d, nesting, fuel, rest, hplain, hdepth, hfuel, _ => by
    obtain ⟨fuel, rfl⟩ := Nat.exists_eq_add_one_of_ne_zero (Nat.ne_zero_of_lt hfuel)
    obtain ⟨nesting, rfl⟩ := Nat.exists_eq_add_one_of_ne_zero (Nat.ne_zero_of_lt hdepth)
    rw [isPlain] at hplain
    have hitem : item.isPlain = true := (Bool.and_eq_true_iff.mp hplain).1
    -- no value starts with a closing bracket, so the reader goes on to the items
    obtain ⟨c, cs, hskip, hc⟩ :=
      skipSpace_blockItems (d + 1) hitem items (newlineAt d ++ ']' :: rest)
    have hlength : (blockItems (d + 1) (item :: items)).length < fuel := by
      simp only [blockChars, List.length_cons, List.length_append] at hfuel
      omega
    have hitems : readItems nesting fuel
        (skipSpace (blockItems (d + 1) (item :: items) ++ (newlineAt d ++ ']' :: rest))) =
        .ok (item :: items, rest) :=
      readItems_blockItems (item :: items) (List.cons_ne_nil item items) hplain
        (Nat.le_of_succ_le_succ hdepth) hlength
    rw [hskip] at hitems
    have hread := readArray hc hskip hitems
    simpa [blockChars] using hread
  | object [], d, nesting, fuel, rest, _, hdepth, hfuel, _ => by
    obtain ⟨fuel, rfl⟩ := Nat.exists_eq_add_one_of_ne_zero (Nat.ne_zero_of_lt hfuel)
    obtain ⟨nesting, rfl⟩ := Nat.exists_eq_add_one_of_ne_zero (Nat.ne_zero_of_lt hdepth)
    rfl
  | object (field :: fields), d, nesting, fuel, rest, hplain, hdepth, hfuel, _ => by
    obtain ⟨fuel, rfl⟩ := Nat.exists_eq_add_one_of_ne_zero (Nat.ne_zero_of_lt hfuel)
    obtain ⟨nesting, rfl⟩ := Nat.exists_eq_add_one_of_ne_zero (Nat.ne_zero_of_lt hdepth)
    obtain ⟨hkeys, hplain⟩ := Bool.and_eq_true_iff.mp hplain
    -- a field starts with a quotation mark, so the reader goes on to the fields
    obtain ⟨cs, hskip⟩ := skipSpace_blockFields (d + 1) field fields (newlineAt d ++ '\x7d' :: rest)
    have hlength : (blockFields (d + 1) (field :: fields)).length < fuel := by
      simp only [blockChars, List.length_cons, List.length_append] at hfuel
      omega
    have hfields : readFields nesting fuel
        (skipSpace (blockFields (d + 1) (field :: fields) ++ (newlineAt d ++ '\x7d' :: rest))) =
        .ok (field :: fields, rest) :=
      readFields_blockFields (field :: fields) (List.cons_ne_nil field fields) hplain
        (Nat.le_of_succ_le_succ hdepth) hlength
    rw [hskip] at hfields
    have hread := readObject (by decide) hskip hfields (of_decide_eq_true hkeys)
    simpa [blockChars] using hread

/-- The items of an array are read back, if their values are plain and nest no deeper than
allowed. -/
theorem readItems_blockItems : ∀ (items : List Json) {d e nesting fuel : Nat} {rest : List Char},
    items ≠ [] → arePlain items = true → depthOfItems items ≤ nesting →
    (blockItems d items).length < fuel →
    readItems nesting fuel (skipSpace (blockItems d items ++ (newlineAt e ++ ']' :: rest))) =
      .ok (items, rest)
  | [], _, _, _, _, _, hne, _, _, _ => absurd rfl hne
  | [item], d, e, nesting, fuel, rest, _, hplain, hdepth, hfuel => by
    obtain ⟨fuel, rfl⟩ := Nat.exists_eq_add_one_of_ne_zero (Nat.ne_zero_of_lt hfuel)
    have hitem : item.isPlain = true := (Bool.and_eq_true_iff.mp hplain).1
    have hlength : (blockChars d item).length < fuel := by
      simp only [blockItems, List.length_append, length_newlineAt] at hfuel
      omega
    have hread := readValue_blockChars item hitem (le_trans (le_max_left _ _) hdepth) hlength
      (endsNumber_newlineAt e (']' :: rest))
    rw [blockItems, List.append_assoc, skipSpace_newlineAt, skipSpace_blockChars d hitem]
    exact readItems_last hread (skipSpace_closing e (by decide) rest)
  | item :: next :: items, d, e, nesting, fuel, rest, _, hplain, hdepth, hfuel => by
    obtain ⟨fuel, rfl⟩ := Nat.exists_eq_add_one_of_ne_zero (Nat.ne_zero_of_lt hfuel)
    obtain ⟨hitem, hplain⟩ := Bool.and_eq_true_iff.mp hplain
    have hlength : (blockChars d item).length < fuel ∧
        (blockItems d (next :: items)).length < fuel := by
      rw [blockItems] at hfuel
      simp only [List.length_append, List.length_cons, length_newlineAt] at hfuel
      omega
    have hread := readValue_blockChars item hitem (le_trans (le_max_left _ _) hdepth) hlength.1
      (endsNumber_comma (blockItems d (next :: items) ++ (newlineAt e ++ ']' :: rest)))
    have hmore : readItems nesting fuel
        (skipSpace (blockItems d (next :: items) ++ (newlineAt e ++ ']' :: rest))) =
        .ok (next :: items, rest) :=
      readItems_blockItems (next :: items) (List.cons_ne_nil next items) hplain
        (le_trans (le_max_right _ _) hdepth) hlength.2
    rw [blockItems, List.append_assoc, List.append_assoc, skipSpace_newlineAt,
      skipSpace_blockChars d hitem, List.cons_append, readItems_cons hread, hmore]
    rfl

/-- The fields of an object are read back, if their values are plain and nest no deeper than
allowed. -/
theorem readFields_blockFields : ∀ (fields : List (String × Json)) {d e nesting fuel : Nat}
    {rest : List Char}, fields ≠ [] → fieldsPlain fields = true → depthOfFields fields ≤ nesting →
    (blockFields d fields).length < fuel →
    readFields nesting fuel
        (skipSpace (blockFields d fields ++ (newlineAt e ++ '\x7d' :: rest))) =
      .ok (fields, rest)
  | [], _, _, _, _, _, hne, _, _, _ => absurd rfl hne
  | [(key, value)], d, e, nesting, fuel, rest, _, hplain, hdepth, hfuel => by
    obtain ⟨fuel, rfl⟩ := Nat.exists_eq_add_one_of_ne_zero (Nat.ne_zero_of_lt hfuel)
    have hvalue : value.isPlain = true := (Bool.and_eq_true_iff.mp hplain).1
    have hlength : (blockChars d value).length < fuel := by
      simp only [blockFields, List.length_append, List.length_cons, length_newlineAt] at hfuel
      omega
    have hread := readValue_blockChars value hvalue (le_trans (le_max_left _ _) hdepth) hlength
      (endsNumber_newlineAt e ('\x7d' :: rest))
    have hlast := readFields_last key (skipSpace_blockChars d hvalue _) hread
      (skipSpace_closing e (by decide) rest)
    rw [blockFields]
    simp only [List.append_assoc, List.cons_append, List.nil_append]
    rw [skipSpace_newlineAt, skipSpace_stringChars]
    exact hlast
  | (key, value) :: next :: fields, d, e, nesting, fuel, rest, _, hplain, hdepth, hfuel => by
    obtain ⟨fuel, rfl⟩ := Nat.exists_eq_add_one_of_ne_zero (Nat.ne_zero_of_lt hfuel)
    obtain ⟨hvalue, hplain⟩ := Bool.and_eq_true_iff.mp hplain
    have hlength : (blockChars d value).length < fuel ∧
        (blockFields d (next :: fields)).length < fuel := by
      rw [blockFields] at hfuel
      simp only [List.length_append, List.length_cons, length_newlineAt] at hfuel
      omega
    have hread := readValue_blockChars value hvalue (le_trans (le_max_left _ _) hdepth) hlength.1
      (endsNumber_comma (blockFields d (next :: fields) ++ (newlineAt e ++ '\x7d' :: rest)))
    have hmore : readFields nesting fuel
        (skipSpace (blockFields d (next :: fields) ++ (newlineAt e ++ '\x7d' :: rest))) =
        .ok (next :: fields, rest) :=
      readFields_blockFields (next :: fields) (List.cons_ne_nil next fields) hplain
        (le_trans (le_max_right _ _) hdepth) hlength.2
    have hcons := readFields_cons key (skipSpace_blockChars d hvalue _) hread
    rw [hmore] at hcons
    rw [blockFields]
    simp only [List.append_assoc, List.cons_append, List.nil_append]
    rw [skipSpace_newlineAt, skipSpace_stringChars]
    exact hcons
end

/-- A plain value that does not nest too deep is read back from its block layout. -/
theorem parseWithin_block {j : Json} (hplain : j.isPlain = true) {nesting : Nat}
    (hdepth : j.depth ≤ nesting) : parseWithin nesting j.block = .ok j := by
  have hskip : skipSpace (blockChars 0 j) = blockChars 0 j := by
    simpa using skipSpace_blockChars 0 hplain []
  have hread := readValue_blockChars j (d := 0) hplain hdepth (Nat.lt_succ_self _) endsNumber_nil
  rw [List.append_nil] at hread
  rw [parseWithin, block, String.toList_ofList, parseChars, hskip, hread]
  rfl

end JavaScribe.Json
