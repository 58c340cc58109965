import JavaScribe.Source.Generator
import Mathlib.Data.List.Forall2
import Mathlib.Data.List.Pairwise

/-!
# The layout of a compilation unit

The built-in template is rendered for all headers, packages, imports and bodies at once.  What does
not depend on them is computed: how the source falls into segments, where a tag takes the newline
behind it along, and which parts the segments make.  The parts are then rendered in a scope whose
values are left open.  An inserted value is joined to the text around it and never cut into segments
itself, so it may hold the signs of the template language.

The names of a scope share a place if they have the same letters, so looking one up needs that the
names of the template all have different ones (`Frame.get_of_mem`).
-/

set_option autoImplicit false

namespace JavaScribe

/-! ## Values in a scope -/

/-- If no two names of a frame have the same letters, each of them has the value that it was
given. -/
theorem Frame.get_of_mem {f : Frame} {name : String} {v : Value}
    (hf : f.meanings.Pairwise fun m n => Text.sameLetters m.1 n.1 = false)
    (hm : (name, some v) ∈ f.meanings) : f.get name = .ok v := by
  have hheld : f.held? name = some v := by
    have hsome : (f.meanings.reverse.find? fun m => Text.sameLetters m.1 name).isSome := by
      rw [List.find?_isSome]
      exact ⟨_, List.mem_reverse.mpr hm, Text.sameLetters_self name⟩
    obtain ⟨m, hfind⟩ := Option.isSome_iff_exists.mp hsome
    have hmem : m ∈ f.meanings := List.mem_reverse.mp (List.mem_of_find?_eq_some hfind)
    have hsame : Text.sameLetters m.1 name = true := by simpa using List.find?_some hfind
    have heq : m = (name, some v) := by
      by_contra hne
      have hsymm : Std.Symm fun m n : String × Option Value => Text.sameLetters m.1 n.1 = false :=
        ⟨fun a b h => by rw [Text.sameLetters_comm, h]⟩
      have hdiff := hf.forall hmem hm hne
      rw [hsame] at hdiff
      cases hdiff
    rw [held?, hfind, heq]
    rfl
  rw [get, hheld]

/-- A name in an expression has the value that the innermost frame gives it. -/
theorem Expr.eval_name_of_mem {f : Frame} {s : Scope} {name : String} {v : Value}
    (hf : f.meanings.Pairwise fun m n => Text.sameLetters m.1 n.1 = false)
    (hm : (name, some v) ∈ f.meanings) : (Expr.name name).eval (f :: s) = .ok v := by
  have hhas : f.has name = true := List.any_eq_true.mpr ⟨_, hm, by simp⟩
  have hfind : (f :: s).find? (·.has name) = some f := List.find?_cons_of_pos hhas
  rw [eval, Scope.get, hfind]
  exact f.get_of_mem hf hm

/-- A block comment of an expression is that of its value. -/
theorem Expr.eval_comment {s : Scope} {e : Expr} {v : Value} (h : e.eval s = .ok v) :
    (Expr.comment e).eval s = .ok (.text (blockComment v.shown)) := by
  rw [eval, h]

/-! ## Parts of a template that can be rendered -/

/-- A value is rendered as it is shown. -/
theorem Piece.render_value {s : Scope} {e : Expr} {v : Value} (h : e.eval s = .ok v) :
    (Piece.value e).render s = .ok v.shown := by
  rw [render, h]

/-- Pieces that are rendered one by one are rendered together. -/
theorem Piece.renderAll_of_forall₂ {s : Scope} {ps : List Piece} {ts : List String}
    (h : List.Forall₂ (fun p t => p.render s = .ok t) ps ts) :
    Piece.renderAll s ps = .ok (String.join ts) := by
  induction h with
  | nil => rfl
  | cons hp _ ih =>
    rw [renderAll, hp, ih, String.join_cons]
    rfl

/-- A block that reads no more than its item is rendered for each item by itself. -/
theorem Piece.renderEach_of_forall {c : Context} {s : Scope} {item : String} {body : List Piece}
    {f : Json → String} {js : List Json} (count : Nat)
    (h : ∀ j ∈ js, ∀ progress, Piece.renderAll
      (s.enter c (Piece.meaningsAt item body j progress) (Piece.reads body)) body = .ok (f j)) :
    Piece.renderEach c s item body count js = .ok (String.join (js.map f)) := by
  induction js with
  | nil => rfl
  | cons j js ih =>
    have hfirst := h j List.mem_cons_self (Value.progress (count - js.length) count)
    have hrest := ih fun k hk => h k (List.mem_cons_of_mem j hk)
    simp only [renderEach, hfirst, hrest, List.map_cons, String.join_cons]
    rfl

namespace Node

/-- A conditional node is its body, or nothing if the condition is empty. -/
theorem render_optional {c : Context} {s : Scope} {condition : Expr} {v : Value}
    {body : List Piece} {t : String} (hv : condition.eval s = .ok v)
    (ht : Piece.renderAll s body = .ok t) :
    (Node.optional condition body).render c s = .ok (if v.isEmpty then "" else t) := by
  rw [render, hv]
  show (if v.isEmpty then Except.ok "" else Piece.renderAll s body) = _
  rw [ht]
  split <;> rfl

/-- A repeated node is its body for every item in turn, if the body is rendered for each of them. -/
theorem render_each {c : Context} {s : Scope} {item : String} {source : Expr} {v : Value}
    {body : List Piece} {js : List Json} {f : Json → String} (hv : source.eval s = .ok v)
    (hjs : v.items = .ok js)
    (h : ∀ j ∈ js, ∀ progress, Piece.renderAll
      (s.enter c (Piece.meaningsAt item body j progress) (Piece.reads body)) body = .ok (f j)) :
    (Node.each item source body).render c s = .ok (String.join (js.map f)) := by
  rw [render, hv]
  show (v.items >>= fun items => Piece.renderEach c s item body items.length items) = _
  rw [hjs]
  exact Piece.renderEach_of_forall js.length h

/-- Nodes that are rendered one by one are rendered together. -/
theorem renderAll_of_forall₂ {c : Context} {s : Scope} {ns : List Node} {ts : List String}
    (h : List.Forall₂ (fun n t => n.render c s = .ok t) ns ts) :
    renderAll c s ns = .ok (String.join ts) := by
  induction h with
  | nil => rfl
  | cons hn _ ih =>
    rw [renderAll, hn, ih, String.join_cons]
    rfl

end Node

/-! ## The parts of the built-in template -/

namespace TemplateLibrary

open Template

/-- The segments that the template for source files is read as. -/
def compilationUnitSegments : List Segment :=
  [.text [], .tag [.word "if", .word "header", .closing .tag],
    .text [], .value [.word "header", .sign "|", .word "block_comment", .closing .value],
    .text ['\n', '\n'], .tag [.word "endif", .closing .tag],
    .text [], .tag [.word "if", .word "package_name", .closing .tag],
    .text "package ".toList, .value [.word "package_name", .closing .value],
    .text [';', '\n', '\n'], .tag [.word "endif", .closing .tag],
    .text [], .tag [.word "for", .word "line", .word "in", .word "imports", .closing .tag],
    .text [], .value [.word "line", .closing .value],
    .text ['\n'], .tag [.word "endfor", .closing .tag],
    .text [], .tag [.word "if", .word "imports", .closing .tag],
    .text ['\n'], .tag [.word "endif", .closing .tag],
    .text [], .value [.word "body", .closing .value], .text ['\n']]

/-- What is written for each import. -/
def importPieces : List Piece := [.text "", .value (.name "line"), .text "\n"]

/-- The nodes that the template for source files consists of. -/
def compilationUnitNodes : List Node :=
  [.piece (.text ""),
    .optional (.name "header") [.text "", .value (.comment (.name "header")), .text "\n\n"],
    .piece (.text ""),
    .optional (.name "package_name")
      [.text "package ", .value (.name "package_name"), .text ";\n\n"],
    .piece (.text ""),
    .each "line" (.name "imports") importPieces,
    .piece (.text ""),
    .optional (.name "imports") [.text "\n"],
    .piece (.text ""), .piece (.value (.name "body")), .piece (.text "\n")]

/-- The source of the template for source files has these segments, with the white space around tags
removed. -/
theorem ofSource_compilationUnitSource :
    Segment.ofSource compilationUnitSource = compilationUnitSegments := by
  -- The characters of one long text are much slower to compute than those of its lines.
  unfold Segment.ofSource compilationUnitSource
  simp only [String.toList_append]
  decide +kernel

/-- The template for source files is read as these nodes. -/
theorem parse_compilationUnitSource :
    Template.parse compilationUnitSource = .ok compilationUnitNodes := by
  have hassemble : assemble none compilationUnitSegments = .ok compilationUnitNodes := by rfl
  rw [Template.parse, ofSource_compilationUnitSource, hassemble]
  rfl

/-- What the built-in template is told. -/
def unitContext (header package imports body : Value) : Context :=
  [("header", header), ("package_name", package), ("imports", imports), ("body", body)]

/-- What the names of the built-in template stand for. -/
def unitFrame (header package imports body : Value) : Frame :=
  ⟨[], (unitContext header package imports body).map fun m => (m.1, some m.2)⟩

section

variable (header package imports body : Value)

/-- The names that the template looks up are those that it is told. -/
theorem enter_unitContext :
    Scope.enter [] (unitContext header package imports body) []
      (Node.reads compilationUnitNodes) = [unitFrame header package imports body] := by
  rfl

/-- No two names of the template have the same letters. -/
theorem pairwise_unitFrame :
    (unitFrame header package imports body).meanings.Pairwise
      fun m n => Text.sameLetters m.1 n.1 = false := by
  have hnames : ["header", "package_name", "imports", "body"].Pairwise
      fun m n => Text.sameLetters m n = false := by
    decide +kernel
  have hmap : (unitFrame header package imports body).meanings.map Prod.fst =
      ["header", "package_name", "imports", "body"] := rfl
  rw [← hmap] at hnames
  exact List.pairwise_map.mp hnames

variable {header package imports body}

/-- A name of the template has the value that the template is told. -/
theorem eval_unitFrame {name : String} {v : Value}
    (hm : (name, v) ∈ unitContext header package imports body) :
    (Expr.name name).eval [unitFrame header package imports body] = .ok v := by
  apply Expr.eval_name_of_mem (pairwise_unitFrame header package imports body)
  exact List.mem_map_of_mem (f := fun m : String × Value => (m.1, some m.2)) hm

end

/-- An import is rendered as its line. -/
theorem renderAll_importPieces (s : Scope) (c : Context) (j : Json) (progress : Value) :
    Piece.renderAll
      (s.enter c (Piece.meaningsAt "line" importPieces j progress) (Piece.reads importPieces))
      importPieces = .ok (j.shown ++ "\n") := by
  have hline : (Expr.name "line").eval (s.enter c [("line", .data j)] ["line"]) = .ok (.data j) :=
    Expr.eval_name_of_mem (List.pairwise_singleton _ _) List.mem_cons_self
  have hpieces : List.Forall₂
      (fun p t => Piece.render (s.enter c [("line", .data j)] ["line"]) p = .ok t) importPieces
      ["", j.shown, "\n"] :=
    .cons rfl (.cons (Piece.render_value hline) (.cons rfl .nil))
  have hmeanings : Piece.meaningsAt "line" importPieces j progress = [("line", .data j)] := by rfl
  rw [hmeanings]
  refine (Piece.renderAll_of_forall₂ hpieces).trans ?_
  simp only [String.join_cons, String.join_nil, String.empty_append, String.append_empty]

/-- The text of a file with a header, a package, lines for the imports and a body. -/
def unitText (header : Value) (package : String) (imports : List String) (body : String) :
    String :=
  (if header.isEmpty then "" else blockComment header.shown ++ "\n\n") ++
    (if package.isEmpty then "" else "package " ++ package ++ ";\n\n") ++
    String.join (imports.map (· ++ "\n")) ++ (if imports.isEmpty then "" else "\n") ++
    body ++ "\n"

/-- What each part of the built-in template is rendered as. -/
def unitParts (header : Value) (package : String) (imports : List String) (body : String) :
    List String :=
  ["", if header.isEmpty then "" else String.join ["", blockComment header.shown, "\n\n"], "",
    if package.isEmpty then "" else String.join ["package ", package, ";\n\n"], "",
    String.join (imports.map (· ++ "\n")), "",
    if imports.isEmpty then "" else String.join ["\n"], "", body, "\n"]

section

variable (header : Value) (package : String) (imports : List String) (body : String)

/-- The parts of a source file make up its text. -/
theorem join_unitParts :
    String.join (unitParts header package imports body) =
      unitText header package imports body := by
  simp only [unitParts, unitText, String.join_cons, String.join_nil, String.empty_append,
    String.append_empty, String.append_assoc]

/-- Each node of the template is rendered as one part of the source file. -/
theorem render_unitNodes :
    let c := unitContext header (.text package) (.texts imports) (.text body)
    let s : Scope := [unitFrame header (.text package) (.texts imports) (.text body)]
    List.Forall₂ (fun n t => Node.render c s n = .ok t) compilationUnitNodes
      (unitParts header package imports body) := by
  intro c s
  have heval : ∀ {name : String} {v : Value}, (name, v) ∈ c → (Expr.name name).eval s = .ok v :=
    eval_unitFrame
  have hheader : (Expr.name "header").eval s = .ok header := heval List.mem_cons_self
  have hpackage : (Expr.name "package_name").eval s = .ok (.text package) :=
    heval (by simp [c, unitContext])
  have himports : (Expr.name "imports").eval s = .ok (.texts imports) :=
    heval (by simp [c, unitContext])
  have hbody : (Expr.name "body").eval s = .ok (.text body) := heval (by simp [c, unitContext])
  have hempty : (Value.texts imports).isEmpty = imports.isEmpty := List.isEmpty_map
  have hlines : (imports.map Json.string).map (fun j => j.shown ++ "\n") =
      imports.map (· ++ "\n") := List.map_map
  rw [unitParts, ← hempty, ← hlines]
  refine .cons rfl (.cons ?comment (.cons rfl (.cons ?place (.cons rfl (.cons ?listing
    (.cons rfl (.cons ?gap (.cons rfl (.cons ?text (.cons rfl .nil))))))))))
  case comment =>
    have hcomment := Piece.render_value (Expr.eval_comment hheader)
    exact Node.render_optional hheader
      (Piece.renderAll_of_forall₂ (.cons rfl (.cons hcomment (.cons rfl .nil))))
  case place =>
    exact Node.render_optional hpackage (Piece.renderAll_of_forall₂
      (.cons rfl (.cons (Piece.render_value hpackage) (.cons rfl .nil))))
  case listing =>
    exact Node.render_each himports rfl fun j _ progress => renderAll_importPieces s c j progress
  case gap => exact Node.render_optional himports (Piece.renderAll_of_forall₂ (.cons rfl .nil))
  case text => exact Piece.render_value hbody

/-- The built-in template cannot fail, whatever the values are. -/
theorem render_unitContext :
    builtin.render compilationUnitName
      (unitContext header (.text package) (.texts imports) (.text body)) =
      .ok (unitText header package imports body) := by
  let c := unitContext header (.text package) (.texts imports) (.text body)
  have hself : Node.refersToTemplate compilationUnitNodes = false := by decide
  have hnodes : Node.renderTemplate compilationUnitName c compilationUnitNodes =
      .ok (unitText header package imports body) := by
    have hparts := Node.renderAll_of_forall₂ (render_unitNodes header package imports body)
    rw [Node.renderTemplate, hself]
    show Node.renderAll c (Scope.enter [] c [] (Node.reads compilationUnitNodes)) _ = _
    rw [enter_unitContext, hparts, join_unitParts]
  have hfind : builtin.find? compilationUnitName = some compilationUnitSource := by rfl
  have hfault : builtin.renderOrFault compilationUnitName c =
      .ok (unitText header package imports body) := by
    rw [renderOrFault, hfind]
    show (Template.parse compilationUnitSource >>= _) = _
    rw [parse_compilationUnitSource]
    exact hnodes
  rw [render, hfault]
  rfl

end

end TemplateLibrary

/-- The text of a unit in the layout of the built-in template. -/
def Settings.sourceText (s : Settings) (u : CompilationUnit) : String :=
  TemplateLibrary.unitText (.data s.copyrightHeader) u.package (s.importLines u)
    (Text.unlines (u.root.lines s.style ""))

/-- The built-in template arranges a unit as its source text. -/
theorem Settings.arrange_builtin (s : Settings) (u : CompilationUnit) :
    s.arrange .builtin u = .ok (s.sourceText u) :=
  TemplateLibrary.render_unitContext _ _ _ _

/-- With the built-in template, the source text of a top-level type is always made. -/
theorem Generator.generate_builtin {s : Settings} {t : Target} (h : t.path = []) :
    (Generator.mk s (.library .builtin)).generate t =
      ⟨.ok (s.sourceText t.unit), [renderingRecord t], ⟨s, .library .builtin⟩⟩ := by
  have htop : t.path.isEmpty = true := by rw [h, List.isEmpty_nil]
  rw [generate, if_pos htop, TemplateOrigin.openLibrary]
  simp only [Settings.arrange_builtin]
  rfl

open TemplateLibrary in
/-- The layout of a source file as the built-in template makes it: the header as a block comment and
the package, each with an empty line behind it, the imports line by line with an empty line behind
all of them, and the body.  No text is read as a template, and what is empty leaves no line. -/
theorem render_compilationUnit (header package : String) (imports : List String) (body : String) :
    builtin.render compilationUnitName
      [("header", .text header), ("package_name", .text package), ("imports", .texts imports),
        ("body", .text body)] =
      .ok ((if header = "" then "" else blockComment header ++ "\n\n") ++
        (if package = "" then "" else "package " ++ package ++ ";" ++ "\n\n") ++
        String.join (imports.map (· ++ "\n")) ++ (if imports = [] then "" else "\n") ++
        body ++ "\n") := by
  have hrender := render_unitContext (.text header) package imports body
  have hheader : (Value.text header).isEmpty = header.isEmpty := rfl
  have hshown : (Value.text header).shown = header := rfl
  rw [unitText, hheader, hshown] at hrender
  simpa [unitContext, String.append_assoc] using hrender

end JavaScribe
