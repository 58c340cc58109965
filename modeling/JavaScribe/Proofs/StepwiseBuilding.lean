import JavaScribe.Session.Builder
import JavaScribe.Proofs.AcceptedEdit

/-!
# Steps and judgements

The steps of a call come to what judging it as a whole says: all of the effect, or nothing.
`TypeBuilder.run_edit` is the statement, for every edit and every state it is carried out in.  It is
not so because failures are undone, for they are not; it is so because no step that records
something comes before a step that can fail.  Two places need a reason.  Judging modifiers records
warnings, but only after it can no longer refuse (`FileBuilder.run_judge`).  And a member has its
identity looked at a second time, after its warnings are recorded; by then nothing has been added
to the identities since the first look (`TypeBuilder.run_addMember`).
-/

set_option autoImplicit false

namespace JavaScribe

/-- A check goes on with its result or fails, and leaves the state as it is. -/
theorem run_check {σ ε α : Type} (wrap : ε → EditError) (x : Except ε α) (s : σ) :
    (check wrap x : EStateM EditError σ α).run s =
      match x with
      | .ok a => .ok a s
      | .error e => .error (wrap e) s := by
  cases x <;> rfl

/-- The types that a list mentions are those that its types mention. -/
theorem mentionsAll_eq_flatMap (ts : List TypeExpr) :
    TypeExpr.mentionsAll ts = ts.flatMap TypeExpr.mentions := by
  induction ts with
  | nil => rfl
  | cons t ts ih => rw [TypeExpr.mentionsAll, ih, List.flatMap_cons]

namespace FileState

/-- What a file shares after more imports, warnings and records. -/
def extend (f : FileState) (imports : List ImportEntry) (warnings : List String) (log : Log) :
    FileState :=
  ⟨f.imports.addAll imports, f.warnings ++ warnings, f.log ++ log⟩

/-- Extending the state of a file twice is extending it once by both. -/
theorem extend_extend (f : FileState) (es es' : List ImportEntry) (ws ws' : List String)
    (l l' : Log) :
    (f.extend es ws l).extend es' ws' l' = f.extend (es ++ es') (ws ++ ws') (l ++ l') := by
  simp only [extend, ImportSet.addAll, List.foldl_append, List.append_assoc]

/-- Extending the state of a file by nothing leaves it as it is. -/
theorem extend_nil (f : FileState) : f.extend [] [] [] = f := by
  simp only [extend, ImportSet.addAll, List.foldl_nil, List.append_nil]

end FileState

namespace FileBuilder

/-- Adding an import extends the imports of the file. -/
theorem run_addImport (e : ImportEntry) (f : FileState) :
    (addImport e).run f = .ok () (f.extend [e] [] []) := by
  simp only [addImport, EStateM.run_modify, FileState.extend, ImportSet.addAll, List.foldl_cons,
    List.foldl_nil, List.append_nil]

/-- Adding what mentions need extends the imports by just that. -/
theorem run_addMentions (ns : List TypeName) (f : FileState) :
    (addMentions ns).run f = .ok () (f.extend (importsOf ns) [] []) := by
  induction ns generalizing f with
  | nil => rw [importsOf, List.map_nil, FileState.extend_nil]; rfl
  | cons n ns ih =>
    show ((addImport (.ofTypeName n)) >>= fun _ => addMentions ns).run f = _
    rw [EStateM.run_bind, run_addImport]
    simp only [ih, FileState.extend_extend]
    rfl

/-- Adding what the mentions in each of several parts need extends the imports by all of it. -/
theorem run_forM_addMentions {α : Type} (mentions : α → List TypeName) (as : List α)
    (f : FileState) :
    (as.forM fun a => addMentions (mentions a)).run f =
      .ok () (f.extend (importsOf (as.flatMap mentions)) [] []) := by
  induction as generalizing f with
  | nil => rw [List.flatMap_nil, importsOf, List.map_nil, FileState.extend_nil]; rfl
  | cons a as ih =>
    show ((addMentions (mentions a)) >>= fun _ => as.forM fun a => addMentions (mentions a)).run f
      = _
    rw [EStateM.run_bind, run_addMentions]
    simp only [ih, FileState.extend_extend, importsOf, List.flatMap_cons, List.map_append,
      List.append_nil]

/-- Adding what a type mentions, if there is one, extends the imports of the file. -/
theorem run_forM_option_addMentions (o : Option TypeExpr) (f : FileState) :
    (o.forM fun t => addMentions t.mentions).run f =
      .ok () (f.extend (importsOf ((o.map TypeExpr.mentions).getD [])) [] []) := by
  cases o with
  | none =>
    rw [Option.map_none, Option.getD_none, importsOf, List.map_nil, FileState.extend_nil]
    rfl
  | some t => exact run_addMentions t.mentions f

/-- Logging a record extends the log. -/
theorem run_record (r : LogRecord) (f : FileState) :
    (record r).run f = .ok () (f.extend [] [] [r]) := by
  simp only [record, EStateM.run_modify, FileState.extend, ImportSet.addAll, List.foldl_nil,
    List.append_nil]

/-- Judging modifiers records warnings only if it does not fail. -/
theorem run_judge (s : Subject) (requested : ModifierSet) (f : FileState) :
    (judge s requested).run f =
      match s.judge requested with
      | .ok a => .ok a.emitted (f.extend [] (s.warnings a) (Log.ofWarnings (s.warnings a)))
      | .error e => .error (.modifiers e) f := by
  simp only [EStateM.run, judge, Subject.report]
  cases s.judge requested with
  | ok a => rfl
  | error e => simp only [List.append_nil]

/-- Declaring a type comes to what judging it says. -/
theorem run_declareType (s : TypeSpec) (site : Site) (p : Place) (f : FileState) :
    (declareType s site p).run f =
      match s.declare site p with
      | .ok e => .ok e.type (f.extend e.imports e.warnings e.log)
      | .error e => .error e f := by
  unfold declareType TypeSpec.declare
  split
  · rfl
  · simp only [EStateM.run_bind, run_check]
    cases requireIdentifier (s.kind.word ++ " name") s.name with
    | error e => rfl
    | ok =>
      cases requirePackageName p.package with
      | error e => rfl
      | ok =>
        cases Category.parse s.category with
        | error e => rfl
        | ok category =>
          simp only [run_judge]
          cases (s.subject site).judge s.modifiers with
          | error e => rfl
          | ok accepted =>
            -- from here on nothing can fail, and what is recorded adds up to the effect
            simp only [run_forM_addMentions, run_record, run_forM_option_addMentions,
              EStateM.run_pure, FileState.extend_extend, List.append_nil, List.nil_append]
            simp only [TypeSpec.mentions, mentionsAll_eq_flatMap, importsOf, List.map_append]
            rfl

end FileBuilder

namespace TypeState

/-- The state after an effect. -/
def apply (s : TypeState) (e : Effect) : TypeState :=
  ⟨e.type, s.file.extend e.imports e.warnings e.log⟩

/-- What judging a call comes to in a state: all of the effect, or nothing. -/
def judged (s : TypeState) : Except EditError Effect → EStateM.Result EditError TypeState Unit
  | .ok e => .ok () (s.apply e)
  | .error e => .error e s

end TypeState

namespace TypeBuilder

/-- Steps on what the file shares leave the type alone. -/
theorem run_onFile {α : Type} (b : FileBuilder α) (s : TypeState) :
    (onFile b).run s =
      match b.run s.file with
      | .ok a f => .ok a { s with file := f }
      | .error e f => .error e { s with file := f } := rfl

/-- Adding what types mention extends the imports of the file and leaves the type alone. -/
theorem run_forM_onFile_addMentions (ts : List TypeExpr) (s : TypeState) :
    (ts.forM fun t => onFile (FileBuilder.addMentions t.mentions)).run s =
      .ok () { s with file := s.file.extend (importsOf (TypeExpr.mentionsAll ts)) [] [] } := by
  induction ts generalizing s with
  | nil => rw [TypeExpr.mentionsAll, importsOf, List.map_nil, FileState.extend_nil]; rfl
  | cons t ts ih =>
    show (onFile (FileBuilder.addMentions t.mentions) >>= fun _ =>
      ts.forM fun t => onFile (FileBuilder.addMentions t.mentions)).run s = _
    simp only [EStateM.run_bind, run_onFile, FileBuilder.run_addMentions, ih,
      FileState.extend_extend, TypeExpr.mentionsAll, importsOf, List.map_append, List.append_nil]

/-- Whether a member is new is read off the identities that the type has by now. -/
theorem run_requireNew (p : Place) (i : Identity) (name : String) (s : TypeState) :
    (requireNew p i name).run s =
      match s.type.requireNew p i name with
      | .ok () => .ok () s
      | .error e => .error e s := by
  show (check id (s.type.requireNew p i name)).run s = _
  rw [run_check]
  cases s.type.requireNew p i name <;> rfl

/-- Judging the modifiers of a member records warnings only if it does not fail. -/
theorem run_judge (kind : DeclarationKind) (name : String) (hasBody : Bool)
    (requested : ModifierSet) (s : TypeState) :
    (judge kind name hasBody requested).run s =
      match (s.type.subject kind name hasBody).judge requested with
      | .ok a =>
        let warnings := (s.type.subject kind name hasBody).warnings a
        .ok a.emitted { s with file := s.file.extend [] warnings (Log.ofWarnings warnings) }
      | .error e => .error (.modifiers e) s := by
  simp only [judge, EStateM.run_bind, EStateM.run_get, run_onFile, FileBuilder.run_judge]
  cases (s.type.subject kind name hasBody).judge requested with
  | error e => rfl
  | ok accepted => rfl

/-- A member that is new is added: the second look at its identity finds what the first one found,
as long as the identities are still the same. -/
theorem run_addMember {p : Place} {m : Member} {t : TypeDecl} {f : FileState}
    (h : m.identity ∉ t.identities) :
    (addMember p m).run ⟨t, f⟩ =
      .ok () ⟨t.withMember m, f.extend (importsOf m.mentions) [] []⟩ := by
  have hnew : t.requireNew p m.identity m.name = .ok () := by
    unfold TypeDecl.requireNew
    rw [if_neg (by simpa using h)]
  simp only [addMember, EStateM.run_bind, run_requireNew, hnew, run_onFile,
    FileBuilder.run_addMentions, EStateM.run_modify]

/-- The steps that all declarations of a field, method or constructor end with. -/
theorem run_judge_addMember (p : Place) (kind : DeclarationKind) (name owner : String)
    (hasBody : Bool) (requested : ModifierSet) (member : List Modifier → Member) (i : Identity)
    (hi : ∀ modifiers, (member modifiers).identity = i) (s : TypeState) :
    (do requireNew p i owner
        let modifiers ← judge kind name hasBody requested
        addMember p (member modifiers)).run s =
      s.judged (do
        s.type.requireNew p i owner
        let accepted ←
          ((s.type.subject kind name hasBody).judge requested).mapError .modifiers
        return s.type.declare (member accepted.emitted) (s.type.subject kind name hasBody)
          accepted) := by
  simp only [EStateM.run_bind, run_requireNew]
  cases hnew : s.type.requireNew p i owner with
  | error e => rfl
  | ok =>
    simp only [run_judge]
    cases (s.type.subject kind name hasBody).judge requested with
    | error e => rfl
    | ok accepted =>
      -- judging recorded warnings, but left the identities as they were at the first look
      have hmember : (member accepted.emitted).identity ∉ s.type.identities := by
        rw [hi]
        exact TypeDecl.requireNew_eq_ok_iff.mp hnew
      simp only [run_addMember hmember, FileState.extend_extend, List.append_nil, List.nil_append]
      rfl

/-- Declaring a field step by step comes to what judging the declaration says. -/
theorem run_declareField (p : Place) (spec : FieldSpec) (s : TypeState) :
    (declareField p spec).run s = s.judged (s.type.declareField p spec) := by
  unfold declareField TypeDecl.declareField
  simp only [EStateM.run_bind, run_check]
  cases requireIdentifier "field name" spec.name with
  | error e => rfl
  | ok =>
    cases Category.parse spec.options.category with
    | error e => rfl
    | ok category =>
      exact run_judge_addMember p .field spec.name spec.name false spec.options.modifiers
        (fun modifiers => .field ⟨spec.type, spec.name, spec.documentation, modifiers, spec.value,
          category, spec.options⟩) (.field spec.name) (fun _ => rfl) s

/-- Declaring a method step by step comes to what judging the declaration says. -/
theorem run_declareMethod (p : Place) (spec : MethodSpec) (s : TypeState) :
    (declareMethod p spec).run s = s.judged (s.type.declareMethod p spec) := by
  unfold declareMethod TypeDecl.declareMethod
  simp only [EStateM.run_bind, run_check]
  cases requireIdentifier "method name" spec.name with
  | error e => rfl
  | ok =>
    cases Category.parse spec.options.category with
    | error e => rfl
    | ok category =>
      exact run_judge_addMember p .method spec.name spec.name spec.body.isSome
        spec.options.modifiers
        (fun modifiers => .executable ⟨.method spec.returnType spec.returnDoc, spec.name,
          spec.documentation, spec.parameters, modifiers, spec.body, category, spec.options⟩)
        (.method spec.name (signature spec.parameters)) (fun _ => rfl) s

/-- Declaring a constructor step by step comes to what judging the declaration says. -/
theorem run_declareConstructor (p : Place) (spec : ConstructorSpec) (s : TypeState) :
    (declareConstructor p spec).run s = s.judged (s.type.declareConstructor p spec) := by
  unfold declareConstructor TypeDecl.declareConstructor
  simp only [EStateM.run_bind, run_check]
  cases Category.parse spec.options.category with
  | error e => rfl
  | ok category =>
    exact run_judge_addMember p .constructor s.type.header.name s.type.header.name false
      spec.options.modifiers
      (fun modifiers => .executable ⟨.constructor, s.type.header.name, spec.documentation,
        spec.parameters, modifiers, spec.body, category, spec.options⟩)
      (.constructor (signature spec.parameters)) (fun _ => rfl) s

/-- Declaring a nested type step by step comes to what judging the declaration says. -/
theorem run_declareNested (p : Place) (spec : TypeSpec) (s : TypeState) :
    (declareNested p spec).run s = s.judged (s.type.declareNested p spec) := by
  unfold declareNested TypeDecl.declareNested
  simp only [EStateM.run_bind, run_requireNew]
  cases hnew : s.type.requireNew p (.type spec.name) spec.name with
  | error e => rfl
  | ok =>
    simp only [EStateM.run_get, run_onFile, FileBuilder.run_declareType]
    cases hnested : spec.declare s.type.header.kind.site (p.inner spec.name) with
    | error e => rfl
    | ok nested =>
      have hname : nested.type.header.name = spec.name := by
        obtain ⟨-, -, -, category, accepted, -, -, rfl⟩ := TypeSpec.declare_eq_ok_iff.mp hnested
        rfl
      have hmember : nested.type.toMember.identity ∉ s.type.identities := by
        show Identity.type nested.type.header.name ∉ _
        rw [hname]
        exact TypeDecl.requireNew_eq_ok_iff.mp hnew
      -- a nested type has spoken for itself, so nothing is left to import
      have hmentions : importsOf nested.type.toMember.mentions = [] := rfl
      simp only [run_addMember hmember, FileState.extend_extend, hmentions, List.append_nil]
      rfl

/-- Declaring a type parameter step by step comes to what judging the declaration says. -/
theorem run_declareTypeParameter (name documentation : String) (bounds : List TypeExpr)
    (s : TypeState) :
    (declareTypeParameter name documentation bounds).run s =
      s.judged (s.type.declareTypeParameter name documentation bounds) := by
  unfold declareTypeParameter TypeDecl.declareTypeParameter
  simp only [EStateM.run_bind, run_check]
  cases TypeParameter.declare name documentation bounds with
  | error e => rfl
  | ok parameter =>
    simp only [run_forM_onFile_addMentions, changeHeader, EStateM.run_modify]
    rfl

/-- Adding interfaces one by one comes to adding all of them. -/
theorem run_addInterfaces (interfaces : List TypeExpr) (h : TypeHeader)
    (identities : List Identity) (members : List Member) (f : FileState) :
    (interfaces.forM addInterface).run ⟨⟨h, identities, members⟩, f⟩ =
      .ok () ⟨⟨{ h with interfaces := TypeDecl.joinInterfaces h.interfaces interfaces },
        identities, members⟩, f.extend (importsOf (TypeExpr.mentionsAll interfaces)) [] []⟩ := by
  induction interfaces generalizing h f with
  | nil => rw [TypeExpr.mentionsAll, importsOf, List.map_nil, FileState.extend_nil]; rfl
  | cons i is ih =>
    show (addInterface i >>= fun _ => is.forM addInterface).run _ = _
    simp only [addInterface, EStateM.run_bind, run_onFile, FileBuilder.run_addMentions,
      changeHeader, EStateM.run_modify, ih, FileState.extend_extend, TypeExpr.mentionsAll,
      importsOf, List.map_append, List.append_nil]
    rfl

/-- Adding annotations one by one comes to adding all of them. -/
theorem run_addAnnotations (annotations : List Annotation) (h : TypeHeader)
    (identities : List Identity) (members : List Member) (f : FileState) :
    (annotations.forM annotate).run ⟨⟨h, identities, members⟩, f⟩ =
      .ok () ⟨⟨{ h with annotations := h.annotations ++ annotations }, identities, members⟩,
        f.extend (importsOf (annotations.flatMap Annotation.mentions)) [] []⟩ := by
  induction annotations generalizing h f with
  | nil =>
    rw [List.flatMap_nil, importsOf, List.map_nil, FileState.extend_nil, List.append_nil]
    rfl
  | cons a as ih =>
    show (annotate a >>= fun _ => as.forM annotate).run _ = _
    simp only [annotate, EStateM.run_bind, run_onFile, FileBuilder.run_addMentions,
      changeHeader, EStateM.run_modify, ih, FileState.extend_extend, List.flatMap_cons,
      importsOf, List.map_append, List.append_nil, List.append_assoc, List.singleton_append]

/-- The steps of an edit come to what judging the edit says: all of its effect, or nothing. -/
theorem run_edit (p : Place) (ed : Edit) (s : TypeState) :
    (TypeBuilder.edit p ed).run s = s.judged (s.type.edit p ed) := by
  cases ed with
  | field spec => exact run_declareField p spec s
  | method spec => exact run_declareMethod p spec s
  | constructor spec => exact run_declareConstructor p spec s
  | nestedType spec => exact run_declareNested p spec s
  | addInterfaces interfaces =>
    exact run_addInterfaces interfaces s.type.header s.type.identities s.type.members s.file
  | addAnnotations annotations =>
    exact run_addAnnotations annotations s.type.header s.type.identities s.type.members s.file
  | typeParameter name documentation bounds =>
    exact run_declareTypeParameter name documentation bounds s
  | importEntry entry =>
    show (onFile (FileBuilder.addImport entry)).run s = _
    rw [run_onFile, FileBuilder.run_addImport]
    rfl
  | importType type =>
    show (onFile (FileBuilder.addMentions type.mentions)).run s = _
    rw [run_onFile, FileBuilder.run_addMentions]
    rfl
  | importMember type member =>
    show (onFile (FileBuilder.addImport (.ofMember type member))).run s = _
    rw [run_onFile, FileBuilder.run_addImport]
    rfl
  | importPackage package =>
    simp only [TypeBuilder.edit, TypeDecl.edit, EStateM.run_bind, run_check]
    cases requirePackageName package with
    | error e => rfl
    | ok =>
      simp only [run_onFile, FileBuilder.run_addImport]
      rfl

end TypeBuilder

end JavaScribe
