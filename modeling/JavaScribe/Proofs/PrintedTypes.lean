import JavaScribe.Proofs.DottedNames

/-!
# What the text of a type tells

A text does not tell everything of the type that it was printed from: the package of a name is not
written, a class cannot be told from a primitive type or a type variable of the same name, an array
of arrays looks like an array of more dimensions, and a wildcard without a bound has no direction.
`TypeExpr.erased` forgets just this, and then nothing else is lost: types that can be formed are
printed alike if and only if they are the same after erasure (`TypeExpr.text_eq_text_iff`).

The proof reads an erased type off the front of a longer text (`TypeExpr.IsErased.isReadOff`).  What
follows a type inside another one is a comma, a closing angle bracket or nothing at all
(`TypeExpr.Closes`).  So a name ends where its characters end, brackets can be counted, and an
argument ends before the next one begins.  A wildcard as the component of an array would spoil this,
for the brackets of an array after a bound belong to the bound.
-/

set_option autoImplicit false

namespace JavaScribe

namespace TypeExpr

/-! ## What printing keeps -/

/-- An array of a type; an array of arrays is one array of more dimensions. -/
def arrayed : TypeExpr → Nat → TypeExpr
  | array component n, dimensions => array component (n + dimensions)
  | t, dimensions => array t dimensions

mutual
/-- A type as far as its text tells: without packages, without the difference of classes, primitive
types and type variables, and without the direction of a wildcard that has no bound. -/
def erased : TypeExpr → TypeExpr
  | named name _ arguments _ => named name "" (erasedAll arguments) false
  | var name => named name "" [] false
  | wildcard _ => wildcard true
  | bounded upper bound => bounded upper (erased bound)
  | array component dimensions => (erased component).arrayed dimensions

/-- The erased forms of some types. -/
def erasedAll : List TypeExpr → List TypeExpr
  | [] => []
  | t :: ts => erased t :: erasedAll ts
end

/-- Brackets for several dimensions stand one after the other. -/
theorem brackets_add (m n : Nat) : brackets (m + n) = brackets m ++ brackets n := by
  unfold brackets
  rw [← String.ofList_append, ← List.flatten_append, List.replicate_append_replicate]

/-- An array is written as its component with brackets behind. -/
theorem text_array (component : TypeExpr) (dimensions : Nat) :
    (array component dimensions).text = component.text ++ brackets dimensions := by
  rw [text]

/-- More dimensions of a type are written as brackets behind it. -/
theorem text_arrayed (t : TypeExpr) (dimensions : Nat) :
    (t.arrayed dimensions).text = t.text ++ brackets dimensions := by
  cases t with
  | array component n =>
    rw [arrayed, text_array, text_array, brackets_add, String.append_assoc]
  | _ => exact text_array _ _

/-- A named type is written with its arguments in angle brackets, if it has any. -/
theorem text_named (name package : String) (arguments : List TypeExpr) (primitive : Bool) :
    (named name package arguments primitive).text =
      if texts arguments = [] then name
      else name ++ "<" ++ ", ".intercalate (texts arguments) ++ ">" := by
  cases arguments with
  | nil => rfl
  | cons a as =>
    rw [if_neg (by simp [texts])]
    rfl

mutual
/-- What is forgotten is not printed. -/
theorem text_erased : ∀ t : TypeExpr, t.erased.text = t.text
  | named name package arguments primitive => by
    rw [erased, text_named, text_named, texts_erasedAll arguments]
  | var name => by rw [erased, text, text]
  | wildcard _ => by rw [erased, text, text]
  | bounded upper bound => by rw [erased, text, text, text_erased bound]
  | array component dimensions => by
    rw [erased, text_arrayed, text_erased component, text_array]

/-- Erased types are written like the types. -/
theorem texts_erasedAll : ∀ ts : List TypeExpr, texts (erasedAll ts) = texts ts
  | [] => by rw [erasedAll]
  | t :: ts => by rw [erasedAll, texts, texts, text_erased t, texts_erasedAll ts]
end

/-! ## Types that can be formed -/

/-- Whether a type is a wildcard, with or without bound. -/
def isWildcard : TypeExpr → Bool
  | wildcard _ | bounded .. => true
  | _ => false

/-- Whether a type expression can be formed, where the names of primitive types have the shape of
identifiers and no array has a wildcard for its component. -/
inductive IsFormed : TypeExpr → Prop where
  | reference {name package : String} {arguments : List TypeExpr} {t : TypeExpr} :
    reference name package arguments = .ok t → (∀ s ∈ arguments, IsFormed s) → IsFormed t
  | primitive {name package : String} {arguments : List TypeExpr} :
    hasIdentifierShape name.toList = true → (∀ s ∈ arguments, IsFormed s) →
    IsFormed (named name package arguments true)
  | variableNamed {name : String} {t : TypeExpr} : variableNamed name = .ok t → IsFormed t
  | wildcard (upper : Bool) : IsFormed (wildcard upper)
  | bounded (upper : Bool) {bound : TypeExpr} : IsFormed bound → IsFormed (bounded upper bound)
  | arrayOf {component t : TypeExpr} {dimensions : Int} :
    arrayOf component dimensions = .ok t → IsFormed component → component.isWildcard = false →
    IsFormed t

/-- An array is formed if it has at least one dimension. -/
theorem arrayOf_eq_ok_iff {component t : TypeExpr} {dimensions : Int} :
    arrayOf component dimensions = .ok t ↔
      1 ≤ dimensions ∧ t = array component dimensions.toNat := by
  unfold arrayOf
  split
  · next h => simp [h, eq_comm]
  · next h => simp [h]

/-! ## Names -/

/-- Whether a character can stand in a dotted name. -/
def isNamePart (c : Char) : Bool := isIdentifierPart c || c == '.'

/-- Whether a text is made of characters of dotted names. -/
def IsNameText (name : String) : Prop :=
  name.toList ≠ [] ∧ ∀ c ∈ name.toList, isNamePart c = true

/-- What has the shape of an identifier is the text of a name. -/
theorem isNameText_of_hasIdentifierShape {name : String}
    (h : hasIdentifierShape name.toList = true) : IsNameText name := by
  obtain ⟨hne, hparts⟩ := isIdentifierPart_of_hasIdentifierShape h
  refine ⟨hne, fun c hc => ?_⟩
  rw [isNamePart, hparts c hc, Bool.true_or]

/-- An identifier is the text of a name. -/
theorem isNameText_of_isIdentifier {name : String} (h : isIdentifier name = true) :
    IsNameText name :=
  isNameText_of_hasIdentifierShape (hasIdentifierShape_of_isIdentifier h)

/-- A name in a name is the text of a name again. -/
theorem IsNameText.append {name member : String} (hname : IsNameText name)
    (hmember : IsNameText member) : IsNameText (name ++ "." ++ member) := by
  unfold IsNameText
  simp only [String.toList_append, List.append_assoc]
  constructor
  · intro h
    exact hname.1 (List.append_eq_nil_iff.mp h).1
  · intro c hc
    rcases List.mem_append.mp hc with hc | hc
    · exact hname.2 c hc
    · rcases List.mem_cons.mp hc with rfl | hc
      · rfl
      · exact hmember.2 c hc

/-- A dotted name is the text of a name. -/
theorem isNameText_of_isDotted {name : String} (h : IsDotted name) : IsNameText name := by
  obtain ⟨parts, hne, hparts, rfl⟩ := h
  induction parts with
  | nil => exact absurd rfl hne
  | cons part parts ih =>
    have hpart := isNameText_of_isIdentifier (hparts part List.mem_cons_self)
    cases parts with
    | nil =>
      rw [String.intercalate_singleton]
      exact hpart
    | cons next parts =>
      rw [String.intercalate_cons_cons]
      apply hpart.append
      exact ih (List.cons_ne_nil next parts) fun q hq => hparts q (List.mem_cons_of_mem part hq)

/-- Whether what follows does not go on a name. -/
def EndsName (cs : List Char) : Prop := ∀ c ∈ cs.head?, isNamePart c = false

/-- A name is read up to the first character that does not belong to a name. -/
theorem takeWhile_name {name : String} (hname : IsNameText name) {r : List Char}
    (hr : EndsName r) : (name.toList ++ r).takeWhile isNamePart = name.toList := by
  rw [List.takeWhile_append_of_pos hname.2]
  cases r with
  | nil => simp
  | cons c cs =>
    have hc : isNamePart c = false := hr c rfl
    rw [List.takeWhile_cons_of_neg (by simp [hc]), List.append_nil]

/-- A name ends where its last character is. -/
theorem name_append_inj {name name' : String} (hname : IsNameText name) (hname' : IsNameText name')
    {r r' : List Char} (hr : EndsName r) (hr' : EndsName r')
    (h : name.toList ++ r = name'.toList ++ r') : name = name' ∧ r = r' := by
  have hchars : name.toList = name'.toList := by
    rw [← takeWhile_name hname hr, h, takeWhile_name hname' hr']
  rw [hchars] at h
  exact ⟨String.toList_inj.mp hchars, List.append_cancel_left h⟩

/-! ## Erased types -/

/-- A type with an array around it, unless it has no dimensions. -/
def dimensioned (t : TypeExpr) : Nat → TypeExpr
  | 0 => t
  | n + 1 => array t (n + 1)

/-- Whether a type is as erasure leaves it: a wildcard, or a named type with dimensions. -/
inductive IsErased : TypeExpr → Prop where
  | named {name : String} {arguments : List TypeExpr} (dimensions : Nat) :
    IsNameText name → (∀ t ∈ arguments, IsErased t) →
    IsErased ((named name "" arguments false).dimensioned dimensions)
  | wildcard : IsErased (wildcard true)
  | bounded (upper : Bool) {bound : TypeExpr} : IsErased bound → IsErased (bounded upper bound)

/-- The erased forms of a list are those of its types. -/
theorem mem_erasedAll {s : TypeExpr} {ts : List TypeExpr} :
    s ∈ erasedAll ts ↔ ∃ t ∈ ts, s = t.erased := by
  induction ts with
  | nil => simp [erasedAll]
  | cons t ts ih => simp [erasedAll, ih]

/-- Erasure keeps wildcards and makes no new ones. -/
theorem isWildcard_erased (t : TypeExpr) : t.erased.isWildcard = t.isWildcard := by
  cases t with
  | array component dimensions =>
    rw [erased]
    cases component.erased <;> rfl
  | _ =>
    rw [erased]
    rfl

/-- An erased type that is no wildcard stays erased as the component of an array. -/
theorem IsErased.arrayed {t : TypeExpr} (h : t.IsErased) (hwildcard : t.isWildcard = false)
    {dimensions : Nat} (hpos : 1 ≤ dimensions) : (t.arrayed dimensions).IsErased := by
  obtain ⟨n, rfl⟩ := Nat.exists_eq_add_of_le' hpos
  cases h with
  | @named name arguments k hname harguments =>
    cases k with
    | zero => exact .named (n + 1) hname harguments
    | succ k => exact .named (k + 1 + (n + 1)) hname harguments
  | wildcard => cases hwildcard
  | bounded => cases hwildcard

/-- A name with erased arguments is erased. -/
theorem isErased_named {name : String} {arguments : List TypeExpr} (hname : IsNameText name)
    (harguments : ∀ s ∈ arguments, s.erased.IsErased) :
    (named name "" (erasedAll arguments) false).IsErased := by
  apply IsErased.named 0 hname
  intro s hs
  obtain ⟨t, ht, rfl⟩ := mem_erasedAll.mp hs
  exact harguments t ht

/-- Of a type that can be formed, erasure leaves an erased type. -/
theorem IsFormed.isErased {t : TypeExpr} (h : t.IsFormed) : t.erased.IsErased := by
  induction h with
  | reference ht _ ih =>
    obtain ⟨hparts, -, rfl⟩ := reference_eq_ok_iff.mp ht
    rw [erased]
    exact isErased_named (isNameText_of_isDotted (isDotted_of_dottedParts hparts)) ih
  | primitive hname _ ih =>
    rw [erased]
    exact isErased_named (isNameText_of_hasIdentifierShape hname) ih
  | variableNamed ht =>
    obtain ⟨hname, rfl⟩ := variableNamed_eq_ok_iff.mp ht
    rw [erased]
    exact .named 0 (isNameText_of_isIdentifier hname) (by simp)
  | wildcard =>
    rw [erased]
    exact .wildcard
  | bounded upper _ ih =>
    rw [erased]
    exact .bounded upper ih
  | arrayOf ht _ hwildcard ih =>
    obtain ⟨hpos, rfl⟩ := arrayOf_eq_ok_iff.mp ht
    rw [erased]
    apply ih.arrayed
    · rw [isWildcard_erased, hwildcard]
    · omega

/-! ## Reading a type off its text -/

/-- The characters of the arguments that come after the first one. -/
def laterChars (ts : List TypeExpr) : List Char := ts.flatMap fun t => ',' :: ' ' :: t.text.toList

/-- The characters of all arguments of a type, in their brackets. -/
def argumentChars : List TypeExpr → List Char
  | [] => []
  | t :: ts => '<' :: t.text.toList ++ laterChars ts ++ ['>']

/-- The texts of several types are that of the first one and those of the others. -/
theorem toList_intercalate_texts (t : TypeExpr) (ts : List TypeExpr) :
    (", ".intercalate (texts (t :: ts))).toList = t.text.toList ++ laterChars ts := by
  induction ts generalizing t with
  | nil => simp [texts, laterChars]
  | cons u us ih =>
    rw [texts, texts, String.intercalate_cons_cons, ← texts, String.toList_append, ih u]
    simp [laterChars]

/-- A named type is written as its name with its arguments behind. -/
theorem toList_text_named (name package : String) (arguments : List TypeExpr) (primitive : Bool) :
    (named name package arguments primitive).text.toList =
      name.toList ++ argumentChars arguments := by
  rw [text_named]
  cases arguments with
  | nil => simp [texts, argumentChars]
  | cons t ts =>
    rw [if_neg (by simp [texts])]
    simp only [String.toList_append, toList_intercalate_texts, argumentChars]
    simp

/-- One more dimension is written as one more pair of brackets. -/
theorem toList_brackets_succ (n : Nat) :
    (brackets (n + 1)).toList = '[' :: ']' :: (brackets n).toList := by
  simp [brackets, List.replicate_succ]

/-- Dimensions are written behind a type, even if there are none. -/
theorem toList_text_dimensioned (t : TypeExpr) (dimensions : Nat) :
    (t.dimensioned dimensions).text.toList = t.text.toList ++ (brackets dimensions).toList := by
  cases dimensions with
  | zero => simp [dimensioned, brackets]
  | succ n => rw [dimensioned, text_array, String.toList_append]

/-- Whether what follows a type closes it: nothing, or what comes after an argument. -/
def Closes (cs : List Char) : Prop := ∀ c ∈ cs.head?, c = ',' ∨ c = '>'

/-- Whether a type can be read off the front of any text that goes on with what closes a type. -/
def IsReadOff (s : TypeExpr) : Prop :=
  ∀ (t : TypeExpr) (r r' : List Char), t.IsErased → Closes r → Closes r' →
    s.text.toList ++ r = t.text.toList ++ r' → s = t ∧ r = r'

/-- What stands behind the first argument closes it. -/
theorem closes_laterChars (ts : List TypeExpr) (r : List Char) :
    Closes (laterChars ts ++ '>' :: r) := by
  intro c hc
  cases ts with
  | nil =>
    right
    simpa [laterChars, eq_comm] using hc
  | cons t ts =>
    left
    simpa [laterChars, eq_comm] using hc

/-- Two lists of further arguments are read alike up to the closing bracket only if they are
equal. -/
theorem laterChars_append_inj {ss ts : List TypeExpr} (hss : ∀ s ∈ ss, s.IsReadOff)
    (hts : ∀ t ∈ ts, t.IsErased) {r r' : List Char}
    (h : laterChars ss ++ '>' :: r = laterChars ts ++ '>' :: r') : ss = ts ∧ r = r' := by
  induction ss generalizing ts with
  | nil =>
    cases ts with
    | nil => simpa [laterChars] using h
    | cons t ts => simp [laterChars] at h
  | cons s ss ih =>
    cases ts with
    | nil => simp [laterChars] at h
    | cons t ts =>
      have hrest : s.text.toList ++ (laterChars ss ++ '>' :: r) =
          t.text.toList ++ (laterChars ts ++ '>' :: r') := by
        simpa [laterChars] using h
      obtain ⟨rfl, hlater⟩ := hss s List.mem_cons_self t _ _ (hts t List.mem_cons_self)
        (closes_laterChars ss r) (closes_laterChars ts r') hrest
      obtain ⟨rfl, rfl⟩ := ih (fun u hu => hss u (List.mem_cons_of_mem s hu))
        (fun u hu => hts u (List.mem_cons_of_mem s hu)) hlater
      exact ⟨rfl, rfl⟩

/-- Two lists of arguments are read alike only if they are equal. -/
theorem argumentChars_append_inj {ss ts : List TypeExpr} (hss : ∀ s ∈ ss, s.IsReadOff)
    (hts : ∀ t ∈ ts, t.IsErased) {r r' : List Char} (hr : r.head? ≠ some '<')
    (hr' : r'.head? ≠ some '<') (h : argumentChars ss ++ r = argumentChars ts ++ r') :
    ss = ts ∧ r = r' := by
  cases ss with
  | nil =>
    cases ts with
    | nil => exact ⟨rfl, h⟩
    | cons t ts =>
      -- arguments open with a bracket, which nothing behind a type does
      rw [show r = argumentChars (t :: ts) ++ r' from h] at hr
      exact absurd rfl hr
  | cons s ss =>
    cases ts with
    | nil =>
      rw [show r' = argumentChars (s :: ss) ++ r from h.symm] at hr'
      exact absurd rfl hr'
    | cons t ts =>
      have hrest : s.text.toList ++ (laterChars ss ++ '>' :: r) =
          t.text.toList ++ (laterChars ts ++ '>' :: r') := by
        simpa [argumentChars] using h
      obtain ⟨rfl, hlater⟩ := hss s List.mem_cons_self t _ _ (hts t List.mem_cons_self)
        (closes_laterChars ss r) (closes_laterChars ts r') hrest
      obtain ⟨rfl, rfl⟩ := laterChars_append_inj (fun u hu => hss u (List.mem_cons_of_mem s hu))
        (fun u hu => hts u (List.mem_cons_of_mem s hu)) hlater
      exact ⟨rfl, rfl⟩

/-- Brackets can be counted, for what closes a type is not another bracket. -/
theorem brackets_append_inj {m n : Nat} {r r' : List Char} (hr : Closes r) (hr' : Closes r')
    (h : (brackets m).toList ++ r = (brackets n).toList ++ r') : m = n ∧ r = r' := by
  have hbracket : ∀ cs : List Char, ¬Closes ('[' :: cs) := by
    intro cs hcs
    have := hcs '[' rfl
    simp at this
  induction m generalizing n with
  | zero =>
    cases n with
    | zero => exact ⟨rfl, h⟩
    | succ n =>
      rw [toList_brackets_succ] at h
      rw [show r = _ from h] at hr
      exact absurd hr (hbracket _)
  | succ m ih =>
    cases n with
    | zero =>
      rw [toList_brackets_succ] at h
      rw [show r' = _ from h.symm] at hr'
      exact absurd hr' (hbracket _)
    | succ n =>
      rw [toList_brackets_succ, toList_brackets_succ] at h
      simp only [List.cons_append, List.cons.injEq, true_and] at h
      obtain ⟨rfl, rfl⟩ := ih h
      exact ⟨rfl, rfl⟩

/-- What may follow the arguments of a type: brackets, or what closes the type. -/
theorem head?_brackets_append {dimensions : Nat} {r : List Char} (hr : Closes r) :
    ∀ c ∈ ((brackets dimensions).toList ++ r).head?, c = '[' ∨ c = ',' ∨ c = '>' := by
  intro c hc
  cases dimensions with
  | zero => exact .inr (hr c hc)
  | succ n =>
    rw [toList_brackets_succ] at hc
    exact .inl (Option.some.inj hc).symm

/-- A name ends where its arguments, brackets or what closes it begin. -/
theorem endsName_argumentChars (ts : List TypeExpr) {dimensions : Nat} {r : List Char}
    (hr : Closes r) : EndsName (argumentChars ts ++ ((brackets dimensions).toList ++ r)) := by
  intro c hc
  cases ts with
  | nil =>
    rcases head?_brackets_append hr c hc with rfl | rfl | rfl <;> rfl
  | cons t ts =>
    obtain rfl : '<' = c := Option.some.inj hc
    rfl

/-- A named type with its dimensions can be read off if its arguments can. -/
theorem dimensioned_append_inj {name name' : String} {ss ts : List TypeExpr} {m n : Nat}
    (hname : IsNameText name) (hname' : IsNameText name') (hss : ∀ s ∈ ss, s.IsReadOff)
    (hts : ∀ t ∈ ts, t.IsErased) {r r' : List Char} (hr : Closes r) (hr' : Closes r')
    (h : ((named name "" ss false).dimensioned m).text.toList ++ r =
      ((named name' "" ts false).dimensioned n).text.toList ++ r') :
    name = name' ∧ ss = ts ∧ m = n ∧ r = r' := by
  have hopen : ∀ (k : Nat) (cs : List Char), Closes cs →
      ((brackets k).toList ++ cs).head? ≠ some '<' := by
    intro k cs hcs hhead
    have := head?_brackets_append hcs '<' hhead
    simp at this
  simp only [toList_text_dimensioned, toList_text_named, List.append_assoc] at h
  obtain ⟨rfl, harguments⟩ := name_append_inj hname hname' (endsName_argumentChars ss hr)
    (endsName_argumentChars ts hr') h
  obtain ⟨rfl, hbrackets⟩ :=
    argumentChars_append_inj hss hts (hopen m r hr) (hopen n r' hr') harguments
  obtain ⟨rfl, rfl⟩ := brackets_append_inj hr hr' hbrackets
  exact ⟨rfl, rfl, rfl, rfl⟩

/-- Named types do not start like wildcards. -/
theorem dimensioned_append_ne {name : String} (hname : IsNameText name) (ts : List TypeExpr)
    (dimensions : Nat) (r cs : List Char) :
    ((named name "" ts false).dimensioned dimensions).text.toList ++ r ≠ '?' :: cs := by
  intro h
  obtain ⟨c, rest, hchars⟩ := List.exists_cons_of_ne_nil hname.1
  have hc : isNamePart c = true := hname.2 c (by simp [hchars])
  rw [toList_text_dimensioned, toList_text_named, hchars] at h
  obtain rfl : c = '?' := (List.cons.inj h).1
  cases hc

/-- A wildcard with a bound is written as a question mark, a word and the bound. -/
theorem toList_text_bounded (upper : Bool) (bound : TypeExpr) :
    (bounded upper bound).text.toList = '?' :: ' ' ::
      ((if upper then "extends ".toList else "super ".toList) ++ bound.text.toList) := by
  rw [text, String.toList_append]
  cases upper <;> rfl

/-- Whether a wildcard is bounded from above or from below is told by the word in front of its
bound. -/
theorem bounded_append_inj {upper upper' : Bool} {bound bound' : TypeExpr} {r r' : List Char}
    (h : (bounded upper bound).text.toList ++ r = (bounded upper' bound').text.toList ++ r') :
    upper = upper' ∧ bound.text.toList ++ r = bound'.text.toList ++ r' := by
  simp only [toList_text_bounded, List.cons_append, List.cons.injEq, true_and,
    List.append_assoc] at h
  cases upper <;> cases upper'
  case false.true => simp at h
  case true.false => simp at h
  all_goals exact ⟨rfl, List.append_cancel_left h⟩

/-- A blank closes no type. -/
theorem not_closes_space (cs : List Char) : ¬Closes (' ' :: cs) := by
  intro h
  have := h ' ' rfl
  simp at this

/-- An erased type is told by its text, whatever closes it. -/
theorem IsErased.isReadOff {s : TypeExpr} (h : s.IsErased) : s.IsReadOff := by
  have hwildcard : ∀ upper, (TypeExpr.wildcard upper).text.toList = ['?'] := by
    intro upper
    rw [text]
    rfl
  induction h with
  | @named name ss m hname _ ih =>
    intro t r r' ht hr hr' heq
    cases ht with
    | named n hname' hts =>
      obtain ⟨rfl, rfl, rfl, rfl⟩ := dimensioned_append_inj hname hname' ih hts hr hr' heq
      exact ⟨rfl, rfl⟩
    | wildcard =>
      rw [hwildcard] at heq
      exact absurd heq (dimensioned_append_ne hname ss m r _)
    | bounded =>
      rw [toList_text_bounded] at heq
      exact absurd heq (dimensioned_append_ne hname ss m r _)
  | wildcard =>
    intro t r r' ht hr hr' heq
    rw [hwildcard] at heq
    cases ht with
    | @named name ts n hname _ => exact absurd heq.symm (dimensioned_append_ne hname ts n r' _)
    | wildcard =>
      rw [hwildcard] at heq
      exact ⟨rfl, (List.cons.inj heq).2⟩
    | bounded =>
      -- the word of a bound goes on with a space, and a space closes no type
      rw [toList_text_bounded] at heq
      rw [show r = ' ' :: _ from (List.cons.inj heq).2] at hr
      exact absurd hr (not_closes_space _)
  | @bounded upper bound _ ih =>
    intro t r r' ht hr hr' heq
    cases ht with
    | @named name ts n hname _ =>
      rw [toList_text_bounded] at heq
      exact absurd heq.symm (dimensioned_append_ne hname ts n r' _)
    | wildcard =>
      rw [toList_text_bounded, hwildcard] at heq
      rw [show r' = ' ' :: _ from (List.cons.inj heq).2.symm] at hr'
      exact absurd hr' (not_closes_space _)
    | @bounded upper' bound' hbound' =>
      obtain ⟨rfl, hrest⟩ := bounded_append_inj heq
      obtain ⟨rfl, rfl⟩ := ih bound' r r' hbound' hr hr' hrest
      exact ⟨rfl, rfl⟩

/-- Two types that can be formed are printed alike just when they are the same after erasure. -/
theorem text_eq_text_iff {s t : TypeExpr} (hs : s.IsFormed) (ht : t.IsFormed) :
    s.text = t.text ↔ s.erased = t.erased := by
  constructor
  · intro h
    have hclosed : Closes [] := by simp [Closes]
    rw [← text_erased s, ← text_erased t] at h
    have hchars : s.erased.text.toList ++ [] = t.erased.text.toList ++ [] := by rw [h]
    exact (hs.isErased.isReadOff t.erased [] [] ht.isErased hclosed hclosed hchars).1
  · intro h
    rw [← text_erased s, ← text_erased t, h]

/-- A wildcard as a component could not be told from an array as a bound. -/
example : (array (bounded true (var "T")) 1).text = (bounded true (array (var "T") 1)).text := by
  rfl

end TypeExpr

end JavaScribe
