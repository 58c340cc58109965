import JavaScribe.Proofs.MemberIdentities
import JavaScribe.Proofs.PrintedTypes

/-!
# Overloads and their types

Overloads are told apart by the printed types of their parameters, so it has to be known what
printing keeps of a type.  Printed types are the same just when the types agree after erasure, and
so it is exactly then that one of two overloads is refused as a duplicate of the other
(`Session.duplicate_iff_types_agree`).
-/

set_option autoImplicit false

namespace JavaScribe

/-- The types of parameters, as far as their texts tell. -/
def erasedTypes (ps : List Parameter) : List TypeExpr := ps.map fun p => p.type.erased

/-- Whether parameters have types that can be formed. -/
def HaveFormedTypes (ps : List Parameter) : Prop := ∀ p ∈ ps, p.type.IsFormed

/-- Signatures are the same just if the types of the parameters are, up to erasure. -/
theorem signature_eq_iff {ps qs : List Parameter} (hps : HaveFormedTypes ps)
    (hqs : HaveFormedTypes qs) : signature ps = signature qs ↔ erasedTypes ps = erasedTypes qs := by
  unfold signature erasedTypes
  induction ps generalizing qs with
  | nil => cases qs <;> simp
  | cons p ps ih =>
    cases qs with
    | nil => simp
    | cons q qs =>
      have hfirst := TypeExpr.text_eq_text_iff (hps p List.mem_cons_self) (hqs q List.mem_cons_self)
      have hrest := ih (fun r hr => hps r (List.mem_cons_of_mem p hr))
        (fun r hr => hqs r (List.mem_cons_of_mem q hr))
      simp only [List.map_cons, List.cons.injEq, hfirst, hrest]

namespace Executable

/-- Whether two are constructors or methods of one name. -/
def IsOverloadOf (e f : Executable) : Prop :=
  match e.form, f.form with
  | .constructor, .constructor => True
  | .method .., .method .. => e.name = f.name
  | _, _ => False

/-- Overloads have the same identity just if they have the same signature. -/
theorem identity_eq_iff {e f : Executable} :
    e.identity = f.identity ↔
      e.IsOverloadOf f ∧ signature e.parameters = signature f.parameters := by
  unfold identity IsOverloadOf
  cases e.form <;> cases f.form <;> simp

/-- Fields and types are never taken for constructors or methods. -/
theorem exists_of_identity_eq {e : Executable} {m : Member} (h : m.identity = e.identity) :
    ∃ f, m = .executable f := by
  cases m with
  | executable f => exact ⟨f, rfl⟩
  | field g =>
    have hfield : Identity.field g.name = e.identity := h
    unfold identity at hfield
    cases hform : e.form <;> simp [hform] at hfield
  | type header _ _ =>
    have htype : Identity.type header.name = e.identity := h
    unfold identity at htype
    cases hform : e.form <;> simp [hform] at htype

end Executable

/-- Among members with types that can be formed, the identity of a constructor or method is taken
just when one of its overloads has types that agree. -/
theorem TypeDecl.KeepsIdentities.mem_identities_iff {t : TypeDecl} (ht : t.KeepsIdentities)
    (hmembers : ∀ f, .executable f ∈ t.members → HaveFormedTypes f.parameters) {e : Executable}
    (he : HaveFormedTypes e.parameters) :
    e.identity ∈ t.identities ↔ ∃ f, .executable f ∈ t.members ∧ f.IsOverloadOf e ∧
      erasedTypes f.parameters = erasedTypes e.parameters := by
  rw [ht.1, List.mem_map]
  constructor
  · rintro ⟨m, hm, hidentity⟩
    obtain ⟨f, rfl⟩ := Executable.exists_of_identity_eq hidentity
    obtain ⟨hoverload, hsignature⟩ := Executable.identity_eq_iff.mp hidentity
    exact ⟨f, hm, hoverload, (signature_eq_iff (hmembers f hm) he).mp hsignature⟩
  · rintro ⟨f, hm, hoverload, htypes⟩
    have hsignature := (signature_eq_iff (hmembers f hm) he).mpr htypes
    exact ⟨.executable f, hm, Executable.identity_eq_iff.mpr ⟨hoverload, hsignature⟩⟩

namespace Session

/-- Types are printed alike just when they agree after erasure.  So a constructor or method that
passes all other checks is refused as a duplicate just when the type has an overload of it already
with parameters whose types agree with its own, and otherwise it is accepted. -/
theorem duplicate_iff_types_agree :
    (∀ s t : TypeExpr, s.IsFormed → t.IsFormed → (s.text = t.text ↔ s.erased = t.erased)) ∧
      ∀ (actions : List Action) (a : Address) (u : CompilationUnit) (t : TypeDecl),
        (empty.performAll actions).find? a = some (u, t) →
        (∀ f, .executable f ∈ t.members → HaveFormedTypes f.parameters) →
        ∀ (ed : Edit) (e : Executable), ed.Declares t.header (u.place a.path) (.executable e) →
          HaveFormedTypes e.parameters →
          let outcome := ((empty.performAll actions).perform (.edit a ed)).outcome
          let agrees := ∃ f, .executable f ∈ t.members ∧ f.IsOverloadOf e ∧
            erasedTypes f.parameters = erasedTypes e.parameters
          (outcome = .error (.duplicate e.identity e.name (u.place a.path).qualifiedName) ↔
            agrees) ∧ (¬agrees → outcome = .ok ()) := by
  refine ⟨fun s t hs ht => TypeExpr.text_eq_text_iff hs ht, ?_⟩
  intro actions a u t hfind hmembers ed e hdeclares he outcome agrees
  obtain ⟨hunit, hpath⟩ := find?_eq_some_iff.mp hfind
  have hcoherent : u.root.Coherent := coherent_of_mem_units (List.mem_of_getElem? hunit)
  have hkeeps : t.KeepsIdentities := (hcoherent.find? hpath).1
  have htaken : e.identity ∈ t.identities ↔ agrees := hkeeps.mem_identities_iff hmembers he
  have houtcome : outcome = _ := congrArg Performed.outcome (perform_edit_of_find? hfind ed)
  by_cases h : e.identity ∈ t.identities
  · have hedit := TypeDecl.edit_of_declares_of_taken hdeclares h
    have hagrees : agrees := htaken.mp h
    refine ⟨iff_of_true ?_ hagrees, fun hnot => absurd hagrees hnot⟩
    rw [houtcome, hedit]
    rfl
  · obtain ⟨effect, hedit, -⟩ := TypeDecl.edit_of_declares_of_new hdeclares h
    have haccepted : outcome = .ok () := by
      rw [houtcome, hedit]
      rfl
    refine ⟨iff_of_false ?_ (htaken.not.mp h), fun _ => haccepted⟩
    rw [haccepted]
    exact nofun

/-- After a method on map entries with arrays of arrays, one on entries of another package with
arrays of two dimensions is refused, although the types are not the same; one on numbers is not. -/
theorem duplicate_iff_types_agree_entry :
    let entry (package : String) (arguments : List TypeExpr) : TypeExpr :=
      .named "Map.Entry" package arguments false
    let rows := entry "java.util" [.var "K", .array (.array (.primitive "int") 1) 1]
    let grid := entry "model" [.named "K" "model" [] false, .array (.primitive "int") 2]
    let spec (type : TypeExpr) : MethodSpec :=
      { returnType := .primitive "void", name := "put", body := some ""
        parameters := [⟨type, "value", "", []⟩] }
    let put (type : TypeExpr) : Action := .edit ⟨0, []⟩ (.method (spec type))
    let s := empty.performAll [.openUnit "model" { kind := .classType, name := "Store" }, put rows]
    rows.text = grid.text ∧ rows ≠ grid ∧
      (s.perform (put grid)).outcome =
        .error (.duplicate (.method "put" ["Map.Entry<K, int[][]>"]) "put" "model.Store") ∧
      (s.perform (put (.primitive "int"))).outcome = .ok () := by
  intro entry rows grid spec put s
  have hint : (TypeExpr.primitive "int").IsFormed := .primitive rfl (by simp)
  have hvar : (TypeExpr.var "K").IsFormed := @TypeExpr.IsFormed.variableNamed "K" _ rfl
  have hrows : rows.IsFormed := by
    refine @TypeExpr.IsFormed.reference "Map.Entry" "java.util" _ rows rfl ?_
    have hrow : (TypeExpr.array (.primitive "int") 1).IsFormed :=
      @TypeExpr.IsFormed.arrayOf (.primitive "int") _ 1 rfl hint rfl
    have hmatrix : (TypeExpr.array (.array (.primitive "int") 1) 1).IsFormed :=
      @TypeExpr.IsFormed.arrayOf (.array (.primitive "int") 1) _ 1 rfl hrow rfl
    simp [hvar, hmatrix]
  have hgrid : grid.IsFormed := by
    refine @TypeExpr.IsFormed.reference "Map.Entry" "model" _ grid rfl ?_
    have hkey : (TypeExpr.named "K" "model" [] false).IsFormed :=
      @TypeExpr.IsFormed.reference "K" "model" [] _ rfl (by simp)
    have hmatrix : (TypeExpr.array (.primitive "int") 2).IsFormed :=
      @TypeExpr.IsFormed.arrayOf (.primitive "int") _ 2 rfl hint rfl
    simp [hkey, hmatrix]
  let stored (type : TypeExpr) : Executable :=
    ⟨.method (.primitive "void") "", "put", "", [⟨type, "value", "", []⟩], [], some "", .untitled,
      {}⟩
  have hfound : (s.find? ⟨0, []⟩).map (fun r => (r.1.place [], r.2.header.kind,
      r.2.header.isAbstract, r.2.members)) =
      some (⟨"model", ["Store"]⟩, .classType, false, [.executable (stored rows)]) := by
    dsimp only [s, put, spec, stored, rows, entry]
    rfl
  obtain ⟨⟨u, t⟩, hfind, hfacts⟩ := Option.map_eq_some_iff.mp hfound
  simp only [Prod.mk.injEq] at hfacts
  obtain ⟨hplace, hkind, habstract, hmembers⟩ := hfacts
  have hformed : ∀ type : TypeExpr, type.IsFormed →
      HaveFormedTypes (stored type).parameters := by
    intro type htype p hp
    obtain rfl := List.mem_singleton.mp hp
    exact htype
  have hdeclares : ∀ type, (Edit.method (spec type)).Declares t.header (u.place [])
      (.executable (stored type)) := by
    have hname : isIdentifier "put" = true := by decide
    have haccepted : Subject.judge ⟨.method, t.header.kind.site, "put", true, t.header.isAbstract⟩
        .empty = .ok ⟨[], []⟩ := by
      rw [hkind, habstract]
      rfl
    intro type
    exact @Edit.Declares.method t.header _ (spec type) .untitled ⟨[], []⟩ hname rfl haccepted
  obtain ⟨htexts, hoverloads⟩ := duplicate_iff_types_agree
  have hstored : ∀ f, .executable f ∈ t.members → f = stored rows := by
    intro f hf
    rw [hmembers] at hf
    exact Member.executable.inj (List.mem_singleton.mp hf)
  have hmine : ∀ f, .executable f ∈ t.members → HaveFormedTypes f.parameters := by
    intro f hf
    rw [hstored f hf]
    exact hformed rows hrows
  refine ⟨(htexts rows grid hrows hgrid).mpr rfl, by decide, ?_, ?_⟩
  · obtain ⟨hduplicate, -⟩ := hoverloads _ ⟨0, []⟩ u t hfind hmine _ _ (hdeclares grid)
      (hformed grid hgrid)
    have houtcome := hduplicate.mpr ⟨stored rows, by simp [hmembers], rfl, rfl⟩
    rw [hplace] at houtcome
    exact houtcome
  · obtain ⟨-, haccepted⟩ := hoverloads _ ⟨0, []⟩ u t hfind hmine _ _ (hdeclares _)
      (hformed _ hint)
    apply haccepted
    rintro ⟨f, hf, -, htypes⟩
    rw [hstored f hf] at htypes
    exact absurd htypes (by decide)

end Session

end JavaScribe
