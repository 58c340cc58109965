import JavaScribe.Proofs.DecimalNumerals
import JavaScribe.Proofs.Sections
import JavaScribe.Proofs.TagGrammar
import JavaScribe.Proofs.TextOrder
import Mathlib.Order.Compare

/-!
# Tags as numbers with titles

Members are put in order by the tags of their categories, and tags are compared as texts.  What a
tag means is a number and a title.  If tags have equally many digits, leading zeros included, the
underscore stands at the same place in all of them, and of two numerals of one length the one with
the greater value comes later.  So the order of the tags is that of the numbers, and of the titles
where the numbers are the same (`Category.compare_eq_order`), and so are the members of a type
ordered in which this is the case (`Session.members_in_order_of_priority`).
-/

set_option autoImplicit false

namespace JavaScribe

namespace Text

/-! ## Numerals of one length -/

/-- Digits are ordered by what they stand for. -/
theorem compare_digitValue {c d : Char} (hc : c.isDigit = true) (hd : d.isDigit = true) :
    compare (digitValue c) (digitValue d) = compare c d := by
  have hmono : StrictMonoOn digitValue {c | c.isDigit = true} := by
    intro a ha b hb hab
    have ha := toNat_of_isDigit ha
    have hb := toNat_of_isDigit hb
    have hlt : a.toNat < b.toNat := UInt32.lt_iff_toNat_lt.mp (Char.lt_def.mp hab)
    unfold digitValue
    omega
  rw [← cmp_eq_compare, ← cmp_eq_compare, hmono.cmp_map_eq hc hd]

/-- In positional notation the last digit counts only if the digits before it are the same. -/
theorem compare_place {m n x y : Nat} (hx : x < 10) (hy : y < 10) :
    compare (10 * m + x) (10 * n + y) = (compare m n).then (compare x y) := by
  rcases lt_trichotomy m n with h | rfl | h
  · rw [compare_lt_iff_lt.mpr h, compare_lt_iff_lt.mpr (by omega)]
    rfl
  · have hmono : StrictMono fun k => 10 * m + k := fun a b hab => Nat.add_lt_add_left hab _
    rw [compare_eq_iff_eq.mpr rfl, ← cmp_eq_compare, hmono.cmp_map_eq, cmp_eq_compare]
    rfl
  · rw [compare_gt_iff_gt.mpr h, compare_gt_iff_gt.mpr (by omega)]
    rfl

/-- Numerals with equally many digits are ordered by their values. -/
theorem compare_numeralValue {ds es : List Char} (hds : ∀ c ∈ ds, c.isDigit = true)
    (hes : ∀ c ∈ es, c.isDigit = true) (h : ds.length = es.length) :
    compare (numeralValue ds) (numeralValue es) = compare ds es := by
  induction ds using List.reverseRecOn generalizing es with
  | nil =>
    obtain rfl := List.length_eq_zero_iff.mp h.symm
    rfl
  | append_singleton ds d ih =>
    rcases List.eq_nil_or_concat' es with rfl | ⟨es, e, rfl⟩
    · simp at h
    · have hlength : ds.length = es.length := by simpa using h
      have hd := hds d (by simp)
      have he := hes e (by simp)
      have hfront := ih (fun c hc => hds c (List.mem_append_left _ hc))
        (fun c hc => hes c (List.mem_append_left _ hc)) hlength
      rw [numeralValue_concat, numeralValue_concat,
        compare_place (digitValue_lt hd) (digitValue_lt he), hfront, compare_digitValue hd he,
        compare_append hlength, compare_cons]
      exact congrArg _ Ordering.then_eq.symm

end Text

namespace Category

/-- The number of digits that a tag starts with. -/
def digitCount (tag : String) : Nat := (tag.toList.takeWhile Char.isDigit).length

/-- Categories are ordered by their numbers, and by their titles where these are the same.  The
untitled category, which has no number, comes first. -/
def order : Category → Category → Ordering := compareLex (compareOn priority) (compareOn title)

/-- The digits of a tag are those in front of its underscore. -/
theorem Splits.digitCount_eq {tag : String} {digits title : List Char}
    (h : Splits tag.toList digits title) : digitCount tag = digits.length := by
  have hspan := h.span_isDigit
  rw [List.span_eq_takeWhile_dropWhile] at hspan
  rw [digitCount, (Prod.mk.inj hspan).1]

/-- Of the tags that are read, only the empty one has no digits. -/
theorem digitCount_eq_zero_iff {tag : String} {c : Category} (h : parse tag = .ok c) :
    digitCount tag = 0 ↔ tag = "" := by
  rcases parse_eq_ok_iff.mp h with ⟨rfl, -⟩ | ⟨digits, title, hsplit, -, -⟩
  · simp [digitCount]
  · rw [hsplit.digitCount_eq, List.length_eq_zero_iff]
    exact iff_of_false hsplit.digits_ne_nil
      fun htag => hsplit.ne_nil (String.toList_eq_nil_iff.mpr htag)

/-- Tags with equally many digits are ordered as what they are read as. -/
theorem compare_eq_order {s t : String} {c d : Category} (hs : parse s = .ok c)
    (ht : parse t = .ok d) (h : digitCount s = digitCount t) : compare s t = order c d := by
  rcases parse_eq_ok_iff.mp hs with ⟨rfl, rfl⟩ | ⟨digits, title, hsplit, -, rfl⟩
  · obtain rfl := (digitCount_eq_zero_iff ht).mp h.symm
    obtain rfl := Except.ok.inj (hs.symm.trans ht)
    rfl
  rcases parse_eq_ok_iff.mp ht with ⟨rfl, rfl⟩ | ⟨digits', title', hsplit', -, rfl⟩
  · obtain rfl := (digitCount_eq_zero_iff hs).mp h
    cases hs
  have hlength : digits.length = digits'.length := by
    rw [← hsplit.digitCount_eq, ← hsplit'.digitCount_eq, h]
  have hnumbers := Text.compare_numeralValue hsplit.isDigit hsplit'.isDigit hlength
  have htitles := compare_toList (String.ofList title) (String.ofList title')
  rw [String.toList_ofList, String.toList_ofList] at htitles
  calc compare s t
      = compare (digits ++ '_' :: title) (digits' ++ '_' :: title') := by
        rw [← compare_toList, hsplit.chars, hsplit'.chars]
    _ = (compare digits digits').then (compare title title') := by
        rw [compare_append hlength, compare_cons, compare_eq_iff_eq.mpr rfl]
        rfl
    _ = (compare (Text.numeralValue digits) (Text.numeralValue digits')).then
          (compare (String.ofList title) (String.ofList title')) := by rw [hnumbers, htitles]

/-- Tags with different numbers of digits are not ordered by their numbers. -/
example : compare "10_Data" "2_State" = .lt := by decide +kernel

/-- The default category comes no later than any other. -/
theorem isLE_order_untitled (c : Category) : (order untitled c).isLE = true := by
  obtain ⟨tag, priority, title⟩ := c
  cases priority with
  | none =>
    show (compare "" title).isLE = true
    rw [← compare_toList]
    cases title.toList <;> rfl
  | some n => rfl

end Category

/-- A list in which nothing without a property comes before something with it has all that has the
property in front. -/
theorem eq_filter_append_filter {α : Type} {p : α → Bool} {l : List α}
    (h : l.Pairwise fun a b => p b = true → p a = true) :
    l = l.filter p ++ l.filter fun a => !p a := by
  induction l with
  | nil => rfl
  | cons a l ih =>
    obtain ⟨hfirst, hrest⟩ := List.pairwise_cons.mp h
    by_cases ha : p a = true
    · rw [List.filter_cons_of_pos ha, List.filter_cons_of_neg (by simp [ha]), List.cons_append,
        ← ih hrest]
    · have hnone : ∀ b ∈ a :: l, ¬p b = true := by
        intro b hb
        obtain rfl | hb := List.mem_cons.mp hb
        · exact ha
        · exact fun hpb => ha (hfirst b hb hpb)
      rw [List.filter_eq_nil_iff.mpr hnone, List.nil_append, List.filter_eq_self.mpr]
      intro b hb
      rw [Bool.not_eq_true', Bool.eq_false_iff.mpr (hnone b hb)]

namespace Member

/-- Nothing is ordered before the empty tag. -/
theorem tag_eq_empty_of_isLE {m n : Member} (h : (compare m.tag n.tag).isLE = true)
    (hn : n.tag = "") : m.tag = "" := by
  rw [hn, ← compare_toList] at h
  rw [← String.toList_eq_nil_iff]
  cases hchars : m.tag.toList with
  | nil => rfl
  | cons c cs =>
    rw [hchars] at h
    cases h

/-- If the tags of members have equally many digits, the members come in the order of the numbers
and titles of their categories. -/
theorem pairwise_order_inOrder {ms : List Member}
    (hparse : ∀ m ∈ ms, Category.parse m.tag = .ok m.category)
    (hcount : ∀ m ∈ ms, ∀ n ∈ ms, m.tag ≠ "" → n.tag ≠ "" →
      Category.digitCount m.tag = Category.digitCount n.tag) :
    (inOrder ms).Pairwise fun m n => (Category.order m.category n.category).isLE = true := by
  refine (pairwise_tag_inOrder ms).imp_of_mem fun {m n} hm hn hle => ?_
  have hm := (inOrder_perm ms).mem_iff.mp hm
  have hn := (inOrder_perm ms).mem_iff.mp hn
  by_cases hmtag : m.tag = ""
  · have huntitled : Category.untitled = m.category := by
      have hparse := hparse m hm
      rw [hmtag] at hparse
      exact Except.ok.inj hparse
    rw [← huntitled]
    exact Category.isLE_order_untitled n.category
  · have hntag : n.tag ≠ "" := fun hntag => hmtag (tag_eq_empty_of_isLE hle hntag)
    rwa [← Category.compare_eq_order (hparse m hm) (hparse n hn) (hcount m hm n hn hmtag hntag)]

/-- Members in order are first those without a tag, and then those with one. -/
theorem inOrder_eq_untitled_append (ms : List Member) :
    inOrder ms = (inOrder ms).filter (fun m => decide (m.tag = "")) ++
      (inOrder ms).filter fun m => !decide (m.tag = "") := by
  apply eq_filter_append_filter
  refine (pairwise_tag_inOrder ms).imp fun {m n} hle hn => ?_
  rw [decide_eq_true_eq] at hn ⊢
  exact tag_eq_empty_of_isLE hle hn

end Member

namespace Session

/-- Tags are ordered as texts.  Two tags with equally many digits that are read, however many these
are, come in the order of their numbers, or of their titles if they have one number.  So the members
of a type whose tags all have equally many digits are written in the order of numbers and titles,
each of them once.  Those of the default category, which has the empty tag, come first. -/
theorem members_in_order_of_priority :
    (∀ (s t : String) (c d : Category), Category.parse s = .ok c → Category.parse t = .ok d →
      Category.digitCount s = Category.digitCount t → compare s t = Category.order c d) ∧
    ∀ (actions : List Action) (a : Address) (u : CompilationUnit) (t : TypeDecl),
      (empty.performAll actions).find? a = some (u, t) →
      (∀ m ∈ t.members, ∀ n ∈ t.members, m.tag ≠ "" → n.tag ≠ "" →
        Category.digitCount m.tag = Category.digitCount n.tag) →
      let members := Member.inOrder t.members
      members.Perm t.members ∧
        members.Pairwise (fun m n => (Category.order m.category n.category).isLE = true) ∧
        ∃ untitled titled, members = untitled ++ titled ∧
          (∀ m ∈ untitled, m.category = .untitled) ∧
          ∀ m ∈ titled, m.category.priority.isSome = true := by
  refine ⟨fun s t c d => Category.compare_eq_order, fun actions a u t hfind hcount => ?members⟩
  have hkeeps : t.KeepsCategories := invariant_of_find? TypeDecl.invariant_keepsCategories hfind
  have hperm : (Member.inOrder t.members).Perm t.members := Member.inOrder_perm t.members
  have hmem : ∀ m ∈ Member.inOrder t.members, Category.parse m.tag = .ok m.category :=
    fun m hm => hkeeps m (hperm.mem_iff.mp hm)
  refine ⟨hperm, Member.pairwise_order_inOrder hkeeps hcount, _, _,
    Member.inOrder_eq_untitled_append t.members, ?untitled, ?titled⟩
  case untitled =>
    intro m hm
    obtain ⟨hm, htag⟩ := List.mem_filter.mp hm
    have hparse := hmem m hm
    rw [of_decide_eq_true htag] at hparse
    exact (Except.ok.inj hparse).symm
  case titled =>
    intro m hm
    obtain ⟨hm, htag⟩ := List.mem_filter.mp hm
    -- a tag is empty or has a number in front, and this one is not empty
    rcases Category.parse_eq_ok_iff.mp (hmem m hm) with ⟨hempty, -⟩ | ⟨_, _, -, -, hcategory⟩
    · rw [hempty] at htag
      cases htag
    · rw [hcategory]
      rfl

/-- The fields of a class with the tags `10_Data`, `02_State` and `02_Data` are written by their
numbers, of which all have two digits, and by their titles, after the field without a tag. -/
theorem members_in_order_of_priority_point :
    let field (name category : String) : Action :=
      .edit ⟨0, []⟩ (.field { type := .primitive "int", name, options := { category } })
    let s := empty.performAll [.openUnit "shapes" { kind := .classType, name := "Point" },
      field "x" "10_Data", field "y" "02_State", field "z" "", field "w" "02_Data"]
    compare "02_State" "10_Data" =
        Category.order ⟨"02_State", some 2, "State"⟩ ⟨"10_Data", some 10, "Data"⟩ ∧
      ∃ u t, s.find? ⟨0, []⟩ = some (u, t) ∧
        t.members.map Member.tag = ["10_Data", "02_State", "", "02_Data"] ∧
        (Member.inOrder t.members).Perm t.members ∧
        (Member.inOrder t.members).Pairwise fun m n =>
          (Category.order m.category n.category).isLE = true := by
  intro field s
  obtain ⟨htags, hmembers⟩ := members_in_order_of_priority
  have hstate : Category.parse "02_State" = .ok ⟨"02_State", some 2, "State"⟩ := by decide +kernel
  have hdata : Category.parse "10_Data" = .ok ⟨"10_Data", some 10, "Data"⟩ := by decide +kernel
  have hdigits : Category.digitCount "02_State" = Category.digitCount "10_Data" := by
    decide +kernel
  refine ⟨htags _ _ _ _ hstate hdata hdigits, ?_⟩
  have hfound : (s.find? ⟨0, []⟩).map (fun r => r.2.members.map Member.tag) =
      some ["10_Data", "02_State", "", "02_Data"] := by decide +kernel
  obtain ⟨⟨u, t⟩, hfind, hpoint⟩ := Option.map_eq_some_iff.mp hfound
  have hcount : ∀ m ∈ t.members, m.tag ≠ "" → Category.digitCount m.tag = 2 := by
    intro m hm hne
    have htag : m.tag ∈ ["10_Data", "02_State", "", "02_Data"] := by
      rw [← hpoint]
      exact List.mem_map_of_mem hm
    have hall : ∀ tag ∈ ["10_Data", "02_State", "", "02_Data"], tag ≠ "" →
        Category.digitCount tag = 2 := by decide +kernel
    exact hall m.tag htag hne
  obtain ⟨hperm, hordered, -⟩ := hmembers _ ⟨0, []⟩ u t hfind fun m hm n hn hmtag hntag =>
    (hcount m hm hmtag).trans (hcount n hn hntag).symm
  exact ⟨u, t, hfind, hpoint, hperm, hordered⟩

end Session

end JavaScribe
