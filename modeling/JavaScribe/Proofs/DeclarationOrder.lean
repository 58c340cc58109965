import JavaScribe.Proofs.Declarations
import JavaScribe.Proofs.ImportListings
import JavaScribe.Source.Generator
import JavaScribe.Source.Obstacle

/-!
# The order of declarations

The order in which the members of a type are declared leaves no trace in the source file, apart
from members with one and the same key, which stay in the order of declaration.  The same calls are
accepted in either order, for a call is refused for what it says or for a second member of its
identity, and neither depends on the order.  The members are then written in the order of their keys
(`TypeDecl.lines_eq_of_inOrder_eq`) and the imports in the order of theirs
(`CompilationUnit.AgreesWith.importLines_eq`).  Only the warnings come in the order of the calls.

Units that are alike in this way are said to agree, and whatever is made of a unit is the same for
units that agree.
-/

set_option autoImplicit false

namespace JavaScribe

namespace Member

/-- A member is ordered in the same way whether or not it is an obstacle. -/
theorem passage_key (r : SettingsReading) (indent : String) (m : Member) :
    (m.passage r indent).key = m.key := by
  cases m <;> rfl

/-- The members of a list are looked at one by one. -/
theorem passages_eq_map (r : SettingsReading) (indent : String) (ms : List Member) :
    passages r indent ms = ms.map (passage r indent) := by
  induction ms with
  | nil => rfl
  | cons m ms ih => rw [passages, ih, List.map_cons]

/-- Only without members nothing is to be put in order. -/
theorem inOrder_eq_nil_iff {ms : List Member} : inOrder ms = [] ↔ ms = [] := by
  constructor
  · intro h
    exact (h ▸ inOrder_perm ms).nil_eq.symm
  · rintro rfl
    exact List.mergeSort_nil

end Member

namespace TypeDecl

/-- The text of a type depends on its header and on its members in canonical order. -/
theorem lines_eq_of_inOrder_eq {t t' : TypeDecl} (hheader : t.header = t'.header)
    (hmembers : Member.inOrder t.members = Member.inOrder t'.members) (style : Style)
    (indent : String) : t.lines style indent = t'.lines style indent := by
  have hnil : t.members = [] ↔ t'.members = [] := by
    rw [← Member.inOrder_eq_nil_iff, hmembers, Member.inOrder_eq_nil_iff]
  have hsorted := congrArg (List.map (Member.block style (indent ++ style.indentUnit))) hmembers
  rw [← Member.inOrder_blocks, ← Member.inOrder_blocks] at hsorted
  unfold lines Block.typeLines
  rw [hheader]
  split
  · next h =>
    rw [Member.blocks_eq_map, List.map_eq_nil_iff] at h
    rw [hnil.mp h, Member.blocks]
  · next h =>
    rw [Member.blocks_eq_map] at h
    have hne : Member.blocks style (indent ++ style.indentUnit) t'.members ≠ [] := by
      rw [Member.blocks_eq_map]
      intro h'
      exact h (List.map_eq_nil_iff.mpr (hnil.mpr (List.map_eq_nil_iff.mp h')))
    split
    · next h' => exact absurd h' hne
    · rw [hsorted]

/-- What keeps a type from being written depends on its header and on its members in canonical
order. -/
theorem typeObstacle?_eq_of_inOrder_eq {t t' : TypeDecl} (hheader : t.header = t'.header)
    (hmembers : Member.inOrder t.members = Member.inOrder t'.members) (r : SettingsReading)
    (indent inner : String) :
    Passage.typeObstacle? r indent t.header (Member.passages r inner t.members) =
      Passage.typeObstacle? r indent t'.header (Member.passages r inner t'.members) := by
  have hsorted : ∀ ms, ((Member.passages r inner ms).mergeSort
      fun a b => a.key.precedes b.key) = (Member.inOrder ms).map (Member.passage r inner) := by
    intro ms
    rw [Member.passages_eq_map]
    exact Member.mergeSort_map_eq Passage.key _ (Member.passage_key r inner) ms
  unfold Passage.typeObstacle?
  rw [hheader, hsorted, hsorted, hmembers]

end TypeDecl

namespace CompilationUnit

/-- Whether two units differ at most in the order in which members and imports came about, and in
their warnings. -/
structure AgreesWith (u v : CompilationUnit) : Prop where
  package : u.package = v.package
  header : u.root.header = v.root.header
  members : Member.inOrder u.root.members = Member.inOrder v.root.members
  imports : u.imports.entries.Perm v.imports.entries

namespace AgreesWith

variable {u v : CompilationUnit}

/-- Units that agree have the same import section. -/
theorem importLines_eq (h : u.AgreesWith v) (s : Settings) : s.importLines u = s.importLines v :=
  ImportEntry.lines_resolve_eq_of_perm s.groupPrefixes s.wildcardThreshold s.implicitPackages
    h.imports

/-- Units that agree tell the template the same. -/
theorem context_eq (h : u.AgreesWith v) (s : Settings) : s.context u = s.context v := by
  unfold Settings.context
  rw [h.importLines_eq s, h.package, TypeDecl.lines_eq_of_inOrder_eq h.header h.members]

/-- Units that agree give the same source file, for every choice of settings and templates. -/
theorem generate_eq (h : u.AgreesWith v) (g : Generator) :
    g.generate ⟨u, [], u.root⟩ = g.generate ⟨v, [], v.root⟩ := by
  have hname : Target.qualifiedName ⟨u, [], u.root⟩ = Target.qualifiedName ⟨v, [], v.root⟩ := by
    simp only [Target.qualifiedName, place, h.package, h.header]
  simp only [Generator.generate, Generator.renderingRecord, hname, Settings.arrange,
    h.context_eq g.settings]

/-- The imports of units that agree are kept from being written by the same obstacle. -/
theorem importObstacle?_eq (h : u.AgreesWith v) (r : SettingsReading) :
    r.importObstacle? u = r.importObstacle? v := by
  -- the entries themselves may differ in the wildcard flag; what is asked of them is in their keys
  have houtside : ∀ (w : CompilationUnit) (f : String → Bool),
      ((w.imports.resolve r.settings.wildcardThreshold r.settings.implicitPackages).any
        fun e => f e.package) =
      (((w.imports.resolve r.settings.wildcardThreshold r.settings.implicitPackages).map
        ImportEntry.listingKey).any fun k => f k.1) := by
    intro w f
    rw [List.any_map]
    rfl
  have hkeys : (u.imports.resolve r.settings.wildcardThreshold r.settings.implicitPackages).map
      ImportEntry.listingKey = (v.imports.resolve r.settings.wildcardThreshold
        r.settings.implicitPackages).map ImportEntry.listingKey :=
    ImportEntry.map_listingKey_resolve_eq_of_perm _ _ h.imports
  unfold SettingsReading.importObstacle?
  simp only [h.imports.any_eq,
    houtside _ fun package => !r.settings.groupPrefixes.any fun p => p.toList.isPrefixOf
      package.toList, hkeys]

/-- Units that agree are kept from being written by the same obstacle. -/
theorem obstacle?_eq (h : u.AgreesWith v) (r : SettingsReading) :
    Target.obstacle? r ⟨u, [], u.root⟩ = Target.obstacle? r ⟨v, [], v.root⟩ := by
  have htype := TypeDecl.typeObstacle?_eq_of_inOrder_eq h.header h.members r "" r.settings.indent
  simp only [Target.obstacle?, h.importObstacle?_eq r, htype]

end AgreesWith

/-- The members with one key are those that the edits for members with this key declare. -/
theorem filter_key_declared (u : CompilationUnit) {eds : List Edit}
    (heds : ∀ ed ∈ eds, ed.declaresMember = true) (k : MemberKey) :
    ((eds.filterMap u.declaration?).map Declaration.member).filter
        (fun m => decide (m.key = k)) =
      ((eds.filter fun ed => decide (ed.memberKey? u.root.header = some k)).filterMap
        u.declaration?).map Declaration.member := by
  induction eds with
  | nil => rfl
  | cons ed eds ih =>
    have hrest := ih fun ed' hed' => heds ed' (List.mem_cons_of_mem _ hed')
    cases hd : u.declaration? ed with
    | none =>
      rw [List.filterMap_cons_none hd, hrest, List.filter_cons]
      split
      · rw [List.filterMap_cons_none hd]
      · rfl
    | some d =>
      have hkey : ed.memberKey? u.root.header = some d.member.key :=
        (TypeDecl.declaration?_spec (heds ed List.mem_cons_self) hd).1
      rw [List.filterMap_cons_some hd, List.map_cons, List.filter_cons, List.filter_cons, hkey,
        hrest]
      simp only [Option.some.injEq]
      split
      · rw [List.filterMap_cons_some hd, List.map_cons]
      · rfl

/-- A unit agrees with itself after it has grown by the same declarations in another order, if
those of members with one key stay in order. -/
theorem agreesWith_extend_of_perm (u : CompilationUnit) {eds eds' : List Edit}
    (heds : ∀ ed ∈ eds, ed.declaresMember = true) (hperm : eds.Perm eds')
    (horder : ∀ k, eds.filter (fun ed => decide (ed.memberKey? u.root.header = some k)) =
      eds'.filter fun ed => decide (ed.memberKey? u.root.header = some k)) :
    (u.extend (eds.filterMap u.declaration?)).AgreesWith
      (u.extend (eds'.filterMap u.declaration?)) where
  package := by rw [package_extend, package_extend]
  header := rfl
  members := by
    have heds' : ∀ ed ∈ eds', ed.declaresMember = true :=
      fun ed hed => heds ed (hperm.mem_iff.mpr hed)
    refine Member.inOrder_eq_of_filter_key_eq fun k => ?_
    simp only [extend, List.filter_append]
    rw [filter_key_declared u heds, filter_key_declared u heds', horder k]
  imports := by
    -- single imports may come in any order; a wildcard among them could take others away
    have hsingle : ∀ e ∈ (eds.filterMap u.declaration?).flatMap Declaration.imports,
        e.IsSingle := by
      intro e he
      obtain ⟨d, hd, he⟩ := List.mem_flatMap.mp he
      obtain ⟨ed, hed, hd⟩ := List.mem_filterMap.mp hd
      exact TypeDecl.isSingle_of_declaration? (heds ed hed) hd e he
    exact ImportSet.addAll_perm u.imports hsingle
      ((hperm.filterMap u.declaration?).flatMap_right Declaration.imports)

end CompilationUnit

namespace Session

/-- If declarations in the top-level type of a unit are all accepted, they are so in any other order
in which those of members with one key come as before.  Then the same source file is made of the
unit, and the same obstacle keeps it from being made, for all settings and templates.  The warnings
are the same but for their order. -/
theorem generate_eq_of_reordered (actions : List Action) (i : Nat) (u : CompilationUnit)
    (hu : (empty.performAll actions).units[i]? = some u) (eds eds' : List Edit)
    (heds : ∀ ed ∈ eds, ed.declaresMember = true) (hperm : eds.Perm eds')
    (horder : ∀ k, eds.filter (fun ed => decide (ed.memberKey? u.root.header = some k)) =
      eds'.filter fun ed => decide (ed.memberKey? u.root.header = some k))
    (haccepts : (empty.performAll actions).Accepts (eds.map (.edit ⟨i, []⟩))) :
    (empty.performAll actions).Accepts (eds'.map (.edit ⟨i, []⟩)) ∧
      ∃ t t', Target.find? ((empty.performAll actions).performAll (eds.map (.edit ⟨i, []⟩)))
          ⟨i, []⟩ = some t ∧
        Target.find? ((empty.performAll actions).performAll (eds'.map (.edit ⟨i, []⟩)))
          ⟨i, []⟩ = some t' ∧
        (∀ g : Generator, g.generate t = g.generate t') ∧
        (∀ r, t.obstacle? r = t'.obstacle? r) ∧ t.unit.warnings.Perm t'.unit.warnings := by
  have hcoherent : u.root.Coherent := coherent_of_mem_units (List.mem_of_getElem? hu)
  have hidentities : u.root.identities.Nodup := hcoherent.1.2
  -- what makes all of `eds` acceptable says nothing of the order, so it holds of `eds'` as well
  obtain ⟨hdeclared, hnodup⟩ := declarations_of_accepts hu heds hidentities haccepts
  have hds := hperm.filterMap u.declaration?
  have hdeclared' : ∀ ed ∈ eds', ∃ d, u.declaration? ed = some d :=
    fun ed hed => hdeclared ed (hperm.mem_iff.mpr hed)
  have heds' : ∀ ed ∈ eds', ed.declaresMember = true :=
    fun ed hed => heds ed (hperm.mem_iff.mpr hed)
  have hnodup' := ((hds.map fun d => d.member.identity).append_left
    u.root.identities).nodup_iff.mp hnodup
  obtain ⟨-, hunit⟩ := accepts_declarations hu heds hdeclared hnodup
  obtain ⟨haccepts', hunit'⟩ := accepts_declarations hu heds' hdeclared' hnodup'
  have hagree := u.agreesWith_extend_of_perm heds hperm horder
  refine ⟨haccepts', _, _, ?_, ?_, hagree.generate_eq, hagree.obstacle?_eq, ?_⟩
  · simp only [Target.find?, find?, hunit]
    rfl
  · simp only [Target.find?, find?, hunit']
    rfl
  · exact (hds.flatMap_right Declaration.warnings).append_left u.warnings

/-- A field and a method with types of two packages may be declared in either order. -/
theorem generate_eq_of_reordered_point :
    let point := empty.performAll [.openUnit "shapes" { kind := .classType, name := "Point" }]
    let method := Edit.method { returnType := .named "List" "java.util" [] false, name := "tags",
                                body := some "" }
    let field := Edit.field { type := .named "File" "java.io" [] false, name := "source" }
    point.Accepts [.edit ⟨0, []⟩ method, .edit ⟨0, []⟩ field] ∧
      point.Accepts [.edit ⟨0, []⟩ field, .edit ⟨0, []⟩ method] ∧
      ∃ t t', Target.find? (point.performAll [.edit ⟨0, []⟩ method, .edit ⟨0, []⟩ field])
          ⟨0, []⟩ = some t ∧
        Target.find? (point.performAll [.edit ⟨0, []⟩ field, .edit ⟨0, []⟩ method])
          ⟨0, []⟩ = some t' ∧ ∀ g : Generator, g.generate t = g.generate t' := by
  intro point method field
  have haccepts : point.Accepts ([method, field].map (.edit ⟨0, []⟩)) := ⟨rfl, rfl, trivial⟩
  have hunit : (point.units[0]?).isSome = true := rfl
  obtain ⟨u, hu⟩ := Option.isSome_iff_exists.mp hunit
  have horder : ∀ k, [method, field].filter
        (fun ed => decide (ed.memberKey? u.root.header = some k)) =
      [field, method].filter fun ed => decide (ed.memberKey? u.root.header = some k) := by
    intro k
    have hfield : field.memberKey? u.root.header = some ⟨"", 0, "source", 0, []⟩ := rfl
    have hmethod : method.memberKey? u.root.header = some ⟨"", 2, "tags", 1, []⟩ := rfl
    simp only [List.filter_cons, List.filter_nil, hfield, hmethod, Option.some.injEq]
    by_cases hk : MemberKey.mk "" 0 "source" 0 [] = k
    · subst hk
      rfl
    · simp [hk]
  obtain ⟨haccepts', t, t', ht, ht', hgenerate, -⟩ :=
    generate_eq_of_reordered _ 0 u hu [method, field] [field, method] (by decide)
      (.swap field method []) horder haccepts
  exact ⟨haccepts, haccepts', t, t', ht, ht', hgenerate⟩

end Session

end JavaScribe
