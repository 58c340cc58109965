import JavaScribe.Proofs.MemberHistory
import JavaScribe.Proofs.MemberOrder
import JavaScribe.Proofs.TextOrder

/-!
# Which member comes first

Of two members, which one is written first is told here in words and not by keys: by the tags of
their categories, by their kinds, by their names, and, for overloads, by whether they keep the order
of declaration and by the simple names of their parameter types (`Member.StandsBefore`).  Members
that none of this tells apart are tied.  The order of keys says the same
(`Member.order_key_eq_lt_iff`, `Member.order_key_eq_eq_iff`), so the members of every type that is
reached are its accepted declarations in just this order, and those that are tied stay as they were
declared (`Session.members_in_canonical_order`).

A key has another shape for an overload that keeps the order of declaration than for one that does
not, and another one for a field.  Where keys are tuples that are compared part by part, parts of
different shapes have no order; a comparison that meets two of them fails.  This is what `KeyPart`
is about: two keys of members never come to that, and the comparison is the one by which members
are put in order (`Member.compareAll?_keyParts`).
-/

set_option autoImplicit false

namespace JavaScribe

/-- The order of keys is lexicographic. -/
theorem MemberKey.order_eq_lt_iff {a b : MemberKey} :
    order a b = .lt ↔ a.tag < b.tag ∨ a.tag = b.tag ∧
      (a.weight < b.weight ∨ a.weight = b.weight ∧
        (a.name < b.name ∨ a.name = b.name ∧
          (a.rank < b.rank ∨ a.rank = b.rank ∧ a.parameterNames < b.parameterNames))) := by
  simp only [order, compareLex, compareOn, Ordering.then_eq_lt, compare_lt_iff_lt,
    compare_list_eq_lt_iff, Std.compare_eq_iff_eq]

namespace Executable

/-- The simple names of the parameter types. -/
def simpleNames (e : Executable) : List String := e.parameters.map fun p => p.type.simpleName

/-- Whether one of two overloads is written before the other one: those that give up the order of
declaration come first, ordered by the simple names of their parameter types. -/
def OverloadBefore (e f : Executable) : Prop :=
  e.options.preserveOrder = false ∧
    (f.options.preserveOrder = true ∨ e.simpleNames < f.simpleNames)

/-- Whether two overloads stay in the order of declaration. -/
def OverloadTied (e f : Executable) : Prop :=
  e.options.preserveOrder = true ∧ f.options.preserveOrder = true ∨
    e.options.preserveOrder = false ∧ f.options.preserveOrder = false ∧
      e.simpleNames = f.simpleNames

/-- The key of an overload that stays where it was declared leaves its parameters out. -/
theorem key_of_preserveOrder {e : Executable} (h : e.options.preserveOrder = true) :
    e.key = ⟨e.category.tag, e.weight, e.name, 1, []⟩ := by
  unfold key
  exact if_pos h

/-- The key of any other overload ends with the names of the types of its parameters. -/
theorem key_of_not_preserveOrder {e : Executable} (h : e.options.preserveOrder = false) :
    e.key = ⟨e.category.tag, e.weight, e.name, 0, e.simpleNames⟩ := by
  unfold key
  apply if_neg
  simp [h]

/-- Of two overloads of a name, the keys tell which one comes before the other. -/
theorem overloadBefore_iff {e f : Executable} :
    e.OverloadBefore f ↔ e.key.rank < f.key.rank ∨
      e.key.rank = f.key.rank ∧ e.key.parameterNames < f.key.parameterNames := by
  unfold OverloadBefore
  cases he : e.options.preserveOrder <;> cases hf : f.options.preserveOrder <;>
    simp [key_of_preserveOrder, key_of_not_preserveOrder, he, hf]

/-- Of two overloads of a name, the keys tell whether they are tied. -/
theorem overloadTied_iff {e f : Executable} :
    e.OverloadTied f ↔
      e.key.rank = f.key.rank ∧ e.key.parameterNames = f.key.parameterNames := by
  unfold OverloadTied
  cases he : e.options.preserveOrder <;> cases hf : f.options.preserveOrder <;>
    simp [key_of_preserveOrder, key_of_not_preserveOrder, he, hf]

end Executable

namespace Member

/-- The place of a member among the kinds of members: fields, constructors, methods, nested
types. -/
def weight : Member → Nat
  | .field _ => 0
  | .executable e => e.weight
  | .type .. => 3

/-- What tells members apart when tag, kind and name do not: two overloads of one name. -/
def OverloadBefore : Member → Member → Prop
  | .executable e, .executable f => e.OverloadBefore f
  | _, _ => False

/-- Whether two members of one kind and name are tied; only overloads can be in order. -/
def OverloadTied : Member → Member → Prop
  | .executable e, .executable f => e.OverloadTied f
  | _, _ => True

/-- Whether one of two members is written before the other one, wherever they were declared.  Texts
are ordered by their characters, of which the one with the smaller number comes first. -/
def StandsBefore (m n : Member) : Prop :=
  m.tag < n.tag ∨ m.tag = n.tag ∧
    (m.weight < n.weight ∨ m.weight = n.weight ∧
      (m.name < n.name ∨ m.name = n.name ∧ m.OverloadBefore n))

/-- Whether two members stay in the order of declaration. -/
def Tied (m n : Member) : Prop :=
  m.tag = n.tag ∧ m.weight = n.weight ∧ m.name = n.name ∧ m.OverloadTied n

/-- Whether two members are both fields, both constructors or methods, or both types. -/
inductive SameKind : Member → Member → Prop where
  | fields (f g : Field) : SameKind (.field f) (.field g)
  | executables (e f : Executable) : SameKind (.executable e) (.executable f)
  | types (h k : TypeHeader) (is js : List Identity) (ms ns : List Member) :
    SameKind (.type h is ms) (.type k js ns)

/-- Members of one weight are of one kind. -/
theorem sameKind_of_weight_eq {m n : Member} (h : m.weight = n.weight) : SameKind m n := by
  have hexecutable : ∀ e : Executable, e.weight = 1 ∨ e.weight = 2 := by
    intro e
    unfold Executable.weight
    cases e.form with
    | constructor => exact .inl rfl
    | method => exact .inr rfl
  cases m with
  | field f =>
    cases n with
    | field g => exact .fields f g
    | executable e =>
      have he : 0 = e.weight := h
      have := hexecutable e
      omega
    | type => cases h
  | executable e =>
    have he := hexecutable e
    cases n with
    | field =>
      have hzero : e.weight = 0 := h
      omega
    | executable f => exact .executables e f
    | type =>
      have hthree : e.weight = 3 := h
      omega
  | type =>
    cases n with
    | field => cases h
    | executable e =>
      have he : 3 = e.weight := h
      have := hexecutable e
      omega
    | type => exact .types ..

/-- The key of a member has the weight of the member. -/
theorem key_weight (m : Member) : m.key.weight = m.weight := by
  cases m with
  | executable e =>
    simp only [key, Executable.key]
    split <;> rfl
  | _ => rfl

/-- The key of a member has the name of the member. -/
theorem key_name (m : Member) : m.key.name = m.name := by
  cases m with
  | executable e =>
    simp only [key, Executable.key]
    split <;> rfl
  | _ => rfl

/-- Members of one kind are ordered by what their keys say of overloads. -/
theorem overloadBefore_iff {m n : Member} (h : m.weight = n.weight) :
    m.OverloadBefore n ↔ m.key.rank < n.key.rank ∨
      m.key.rank = n.key.rank ∧ m.key.parameterNames < n.key.parameterNames := by
  cases sameKind_of_weight_eq h with
  | fields => simp [OverloadBefore, key]
  | executables e f => exact Executable.overloadBefore_iff
  | types => simp [OverloadBefore, key]

/-- Of two members of one weight, the keys tell whether they are tied. -/
theorem overloadTied_iff {m n : Member} (h : m.weight = n.weight) :
    m.OverloadTied n ↔
      m.key.rank = n.key.rank ∧ m.key.parameterNames = n.key.parameterNames := by
  cases sameKind_of_weight_eq h with
  | fields => simp [OverloadTied, key]
  | executables e f => exact Executable.overloadTied_iff
  | types => simp [OverloadTied, key]

/-- The key of a member comes first just when the member does. -/
theorem order_key_eq_lt_iff {m n : Member} :
    MemberKey.order m.key n.key = .lt ↔ m.StandsBefore n := by
  rw [MemberKey.order_eq_lt_iff, key_tag, key_tag, key_weight, key_weight, key_name, key_name]
  unfold StandsBefore
  by_cases hweight : m.weight = n.weight
  · rw [overloadBefore_iff hweight]
  · simp only [hweight, false_and]

/-- Members are tied just if they have the same key. -/
theorem key_eq_iff_tied {m n : Member} : m.key = n.key ↔ m.Tied n := by
  unfold Tied
  rw [← key_tag, ← key_tag, ← key_name, ← key_name]
  by_cases hweight : m.weight = n.weight
  · rw [overloadTied_iff hweight, ← key_weight, ← key_weight]
    cases m.key
    cases n.key
    simp only [MemberKey.mk.injEq]
  · constructor
    · intro h
      rw [← key_weight, ← key_weight, h] at hweight
      exact absurd rfl hweight
    · rintro ⟨-, h, -⟩
      exact absurd h hweight

/-- Members are tied just if their keys are equal in the order of keys. -/
theorem order_key_eq_eq_iff {m n : Member} :
    MemberKey.order m.key n.key = .eq ↔ m.Tied n := by
  rw [Std.LawfulEqCmp.compare_eq_iff_eq, key_eq_iff_tied]

/-- Of two members, one stands before the other or they are tied. -/
theorem standsBefore_or_tied (m n : Member) : m.StandsBefore n ∨ m.Tied n ∨ n.StandsBefore m := by
  cases horder : MemberKey.order m.key n.key with
  | lt => exact .inl (order_key_eq_lt_iff.mp horder)
  | eq => exact .inr (.inl (order_key_eq_eq_iff.mp horder))
  | gt =>
    have hlt := Std.OrientedCmp.gt_iff_lt.mp horder
    exact .inr (.inr (order_key_eq_lt_iff.mp hlt))

/-- In canonical order, a member that stands before another one precedes it, wherever the two were
declared. -/
theorem sublist_inOrder_of_standsBefore {ms : List Member} {m n : Member} (hm : m ∈ ms)
    (hn : n ∈ ms) (h : m.StandsBefore n) : [m, n].Sublist (inOrder ms) := by
  have hlt := order_key_eq_lt_iff.mpr h
  have hm := (inOrder_perm ms).mem_iff.mpr hm
  have hn := (inOrder_perm ms).mem_iff.mpr hn
  obtain ⟨before, after, hsplit⟩ := List.append_of_mem hm
  have hpairwise : (before ++ m :: after).Pairwise fun a b => a.key.precedes b.key = true := by
    rw [← hsplit]
    exact StableSort.pairwise_mergeSort MemberKey.order key ms
  obtain ⟨-, -, hbefore⟩ := List.pairwise_append.mp hpairwise
  rw [hsplit] at hn ⊢
  -- `n` cannot be in front of `m`, for there all keys are no greater than that of `m`
  rcases List.mem_append.mp hn with hn | hn
  · have hle := hbefore n hn m List.mem_cons_self
    have hgt := Std.OrientedCmp.gt_iff_lt.mpr hlt
    rw [MemberKey.precedes, hgt] at hle
    cases hle
  · rcases List.mem_cons.mp hn with rfl | hn
    · have heq : MemberKey.order n.key n.key = .eq := Std.ReflCmp.compare_self
      rw [heq] at hlt
      cases hlt
    · apply List.Sublist.trans _ (List.sublist_append_right before (m :: after))
      apply List.Sublist.cons_cons
      exact List.singleton_sublist.mpr hn

/-- Members that are tied stay in the order of declaration. -/
theorem sublist_inOrder_of_tied {ms : List Member} {m n : Member} (hmn : [m, n].Sublist ms)
    (h : m.Tied n) : [m, n].Sublist (inOrder ms) := by
  have hprecedes : m.key.precedes n.key = true := by
    rw [MemberKey.precedes, order_key_eq_eq_iff.mpr h]
    rfl
  exact List.pair_sublist_mergeSort (StableSort.precedes_trans MemberKey.order key)
    (StableSort.precedes_total MemberKey.order key) hprecedes hmn

end Member

/-! ## Keys as tuples -/

/-- A part of a key, where a key is a tuple of parts of several shapes. -/
inductive KeyPart where
  | number (n : Nat)
  | text (s : String)
  | tuple (parts : List KeyPart)

namespace KeyPart

mutual
/-- Compares two parts; parts of different shapes have no order. -/
def compare? : KeyPart → KeyPart → Option Ordering
  | number m, number n => some (compare m n)
  | text s, text t => some (compare s t)
  | tuple ps, tuple qs => compareAll? ps qs
  | _, _ => none

/-- Compares tuples by the first parts that differ; a tuple comes before those that go on. -/
def compareAll? : List KeyPart → List KeyPart → Option Ordering
  | [], [] => some .eq
  | [], _ :: _ => some .lt
  | _ :: _, [] => some .gt
  | p :: ps, q :: qs =>
    match compare? p q with
    | some .eq => compareAll? ps qs
    | other => other
end

/-- Nothing can always be compared with a key. -/
theorem exists_compareAll?_nil_left (ps : List KeyPart) : ∃ o, compareAll? [] ps = some o := by
  cases ps with
  | nil => exact ⟨.eq, rfl⟩
  | cons => exact ⟨.lt, rfl⟩

/-- A key can always be compared with nothing. -/
theorem exists_compareAll?_nil_right (ps : List KeyPart) : ∃ o, compareAll? ps [] = some o := by
  cases ps with
  | nil => exact ⟨.eq, rfl⟩
  | cons => exact ⟨.gt, rfl⟩

/-- Keys are compared part by part, and a later part only counts if the earlier ones are equal. -/
theorem compareAll?_cons {p q : KeyPart} {ps qs : List KeyPart} {first rest : Ordering}
    (hfirst : compare? p q = some first) (hrest : compareAll? ps qs = some rest) :
    compareAll? (p :: ps) (q :: qs) = some (first.then rest) := by
  rw [compareAll?, hfirst, hrest]
  cases first <;> rfl

/-- Lists of texts are compared as texts. -/
theorem compareAll?_texts (ss ts : List String) :
    compareAll? (ss.map text) (ts.map text) = some (compare ss ts) := by
  induction ss generalizing ts with
  | nil => cases ts <;> rfl
  | cons s ss ih =>
    cases ts with
    | nil => rfl
    | cons t ts =>
      rw [compare_cons]
      exact compareAll?_cons rfl (ih ts)

end KeyPart

/-- The part of the key that tells overloads apart. -/
def Executable.overloadParts (e : Executable) : List KeyPart :=
  if e.options.preserveOrder then [.number 1] else [.number 0, .tuple (e.simpleNames.map .text)]

/-- What overloads are compared by tells their order. -/
theorem Executable.compareAll?_overloadParts (e f : Executable) :
    KeyPart.compareAll? e.overloadParts f.overloadParts =
      some ((compare e.key.rank f.key.rank).then
        (compare e.key.parameterNames f.key.parameterNames)) := by
  unfold overloadParts
  cases he : e.options.preserveOrder <;> cases hf : f.options.preserveOrder
  case false.false =>
    have hnames := KeyPart.compareAll?_texts e.simpleNames f.simpleNames
    rw [key_of_not_preserveOrder he, key_of_not_preserveOrder hf]
    simp only [Bool.false_eq_true, if_false, KeyPart.compareAll?, KeyPart.compare?, hnames]
    cases compare e.simpleNames f.simpleNames <;> rfl
  case false.true =>
    rw [key_of_not_preserveOrder he, key_of_preserveOrder hf]
    rfl
  case true.false =>
    rw [key_of_preserveOrder he, key_of_not_preserveOrder hf]
    rfl
  case true.true =>
    rw [key_of_preserveOrder he, key_of_preserveOrder hf]
    rfl

namespace Member

/-- The part of the key that tells overloads apart; all other members have none. -/
def overloadParts : Member → List KeyPart
  | .field _ | .type .. => []
  | .executable e => e.overloadParts

/-- The key of a member as a tuple. -/
def keyParts (m : Member) : List KeyPart :=
  [.text m.tag, .number m.weight, .text m.name, .tuple m.overloadParts]

/-- What is behind the names in two keys can always be compared. -/
theorem exists_compareAll?_overloadParts (m n : Member) :
    ∃ last, KeyPart.compareAll? m.overloadParts n.overloadParts = some last := by
  cases m with
  | executable e =>
    cases n with
    | executable f => exact ⟨_, e.compareAll?_overloadParts f⟩
    | _ => exact KeyPart.exists_compareAll?_nil_right e.overloadParts
  | _ => exact KeyPart.exists_compareAll?_nil_left n.overloadParts

/-- For members of one kind the last parts compare as their keys say of overloads. -/
theorem compareAll?_overloadParts {m n : Member} (h : m.weight = n.weight) :
    KeyPart.compareAll? m.overloadParts n.overloadParts =
      some ((compare m.key.rank n.key.rank).then
        (compare m.key.parameterNames n.key.parameterNames)) := by
  cases sameKind_of_weight_eq h with
  | executables e f => exact e.compareAll?_overloadParts f
  | _ => rfl

/-- Keys of members can always be compared, and the comparison is the one by which members are put
in order. -/
theorem compareAll?_keyParts (m n : Member) :
    KeyPart.compareAll? m.keyParts n.keyParts = some (MemberKey.order m.key n.key) := by
  obtain ⟨last, hlast⟩ := exists_compareAll?_overloadParts m n
  have hparts : KeyPart.compareAll? m.keyParts n.keyParts =
      some ((compare m.tag n.tag).then ((compare m.weight n.weight).then
        ((compare m.name n.name).then (last.then .eq)))) := by
    apply KeyPart.compareAll?_cons rfl
    apply KeyPart.compareAll?_cons rfl
    apply KeyPart.compareAll?_cons rfl
    exact KeyPart.compareAll?_cons hlast rfl
  have horder : MemberKey.order m.key n.key =
      (compare m.tag n.tag).then ((compare m.weight n.weight).then
        ((compare m.name n.name).then ((compare m.key.rank n.key.rank).then
          (compare m.key.parameterNames n.key.parameterNames)))) := by
    rw [← key_tag, ← key_tag, ← key_weight, ← key_weight, ← key_name, ← key_name]
    rfl
  rw [hparts, horder]
  by_cases hweight : m.weight = n.weight
  · obtain rfl := Option.some.inj (hlast.symm.trans (compareAll?_overloadParts hweight))
    rw [Ordering.then_eq]
  · -- the kinds decide, so the parts that come after them do not count
    have hkinds : compare m.weight n.weight ≠ .eq := by
      rw [ne_eq, Std.compare_eq_iff_eq]
      exact hweight
    cases hcompare : compare m.weight n.weight with
    | eq => exact absurd hcompare hkinds
    | _ => rfl

end Member

namespace Session

/-- The members of every type that is reached are the declarations that were accepted on it, in an
order that depends on the members alone: of any two, one stands before the other, wherever it was
declared, or they are tied, and then they stay as they were declared.  The keys by which this is
found out can always be compared. -/
theorem members_in_canonical_order (actions : List Action) (a : Address) (u : CompilationUnit)
    (t : TypeDecl) (hfind : (empty.performAll actions).find? a = some (u, t)) :
    let members := Member.inOrder t.members
    DeclaredBy t.header (u.place a.path) (acceptedEditsAt a empty actions) t.members ∧
      members.Perm t.members ∧ (members.map Member.identity).Nodup ∧
      (∀ m ∈ t.members, ∀ n ∈ t.members,
        (m.StandsBefore n ∨ m.Tied n ∨ n.StandsBefore m) ∧
          (m.StandsBefore n → [m, n].Sublist members)) ∧
      (∀ m n, [m, n].Sublist t.members → m.Tied n → [m, n].Sublist members) ∧
      ∀ m n : Member,
        KeyPart.compareAll? m.keyParts n.keyParts = some (MemberKey.order m.key n.key) := by
  intro members
  obtain ⟨hunit, hpath⟩ := find?_eq_some_iff.mp hfind
  have hperm : members.Perm t.members := Member.inOrder_perm t.members
  refine ⟨declaredBy_performAll hfind, hperm, ?apart, ?ordered, ?stable, ?compared⟩
  case apart =>
    have hcoherent : u.root.Coherent := coherent_of_mem_units (List.mem_of_getElem? hunit)
    have hkeeps : t.KeepsIdentities := (hcoherent.find? hpath).1
    have hnodup : (t.members.map Member.identity).Nodup := hkeeps.1 ▸ hkeeps.2
    exact (hperm.map Member.identity).nodup_iff.mpr hnodup
  case ordered =>
    intro m hm n hn
    exact ⟨m.standsBefore_or_tied n, Member.sublist_inOrder_of_standsBefore hm hn⟩
  case stable =>
    intro m n hmn htied
    exact Member.sublist_inOrder_of_tied hmn htied
  case compared =>
    intro m n
    exact Member.compareAll?_keyParts m n

/-- Of two overloads that give up the order of declaration, the one with a parameter less comes
first, although it was declared after the other one. -/
theorem members_in_canonical_order_resize :
    let int : TypeExpr := .primitive "int"
    let resize (parameters : List Parameter) : Executable :=
      ⟨.method (.primitive "void") "", "resize", "", parameters, [], some "", .untitled,
        { preserveOrder := false }⟩
    let both := resize [⟨int, "width", "", []⟩, ⟨int, "height", "", []⟩]
    let width := resize [⟨int, "width", "", []⟩]
    let declare (e : Executable) : Action :=
      .edit ⟨0, []⟩ (.method { returnType := .primitive "void", name := e.name, body := e.body,
                               parameters := e.parameters, options := e.options })
    let s := empty.performAll [.openUnit "shapes" { kind := .classType, name := "Point" },
      declare both, declare width]
    ∃ u t, s.find? ⟨0, []⟩ = some (u, t) ∧
      t.members = [.executable both, .executable width] ∧
      [Member.executable width, .executable both].Sublist (Member.inOrder t.members) := by
  intro int resize both width declare s
  have hfound : (s.find? ⟨0, []⟩).map (fun r => r.2.members) =
      some [.executable both, .executable width] := by
    dsimp only [s, declare, both, width, resize, int]
    rfl
  obtain ⟨⟨u, t⟩, hfind, hmembers⟩ := Option.map_eq_some_iff.mp hfound
  have hmembers : t.members = [.executable both, .executable width] := hmembers
  have hbefore : (Member.executable width).StandsBefore (.executable both) := by
    have hnames : width.simpleNames < both.simpleNames := by decide
    exact .inr ⟨rfl, .inr ⟨rfl, .inr ⟨rfl, rfl, .inr hnames⟩⟩⟩
  obtain ⟨-, -, -, hordered, -⟩ := members_in_canonical_order _ ⟨0, []⟩ u t hfind
  obtain ⟨-, hsublist⟩ := hordered (.executable width) (by simp [hmembers]) (.executable both)
    (by simp [hmembers])
  exact ⟨u, t, hfind, hmembers, hsublist hbefore⟩

end Session

end JavaScribe
