import JavaScribe.Proofs.ImportSections
import JavaScribe.Proofs.Sections
import Mathlib.Data.List.Chain
import Mathlib.Data.String.Basic

/-!
# Groups of imports

An import entry belongs to the first prefix that its package starts with.  The lines of an import
section are its declarations in their order, with an empty line between two of them just when they
belong to different prefixes, so blank lines stand apart from each other and from both ends.

In a section that is in the order of packages the packages with a common prefix come one after the
other.  If no prefix is the start of another one, the declarations that belong to a prefix are thus
one block (`ImportEntry.lines_form_groups`).
-/

set_option autoImplicit false

namespace JavaScribe

namespace Text

open Sections (isBlankLine)

/-- The lines that are not blank. -/
def withoutBlanks (ls : List String) : List String := ls.filter fun l => !isBlankLine l

/-- Leaving out blank lines goes line by line. -/
theorem withoutBlanks_append (ls ls' : List String) :
    withoutBlanks (ls ++ ls') = withoutBlanks ls ++ withoutBlanks ls' := List.filter_append ls ls'

/-- A line that is not blank is kept. -/
theorem withoutBlanks_cons {l : String} (h : isBlankLine l = false) (ls : List String) :
    withoutBlanks (l :: ls) = l :: withoutBlanks ls := by
  apply List.filter_cons_of_pos
  rw [h]
  rfl

/-- An empty line is left out. -/
theorem withoutBlanks_empty (ls : List String) : withoutBlanks ("" :: ls) = withoutBlanks ls := by
  apply List.filter_cons_of_neg
  decide

/-- Whether blank lines only stand between other lines, and one at a time. -/
structure IsSpaced (ls : List String) : Prop where
  first : ∀ l ∈ ls.head?, isBlankLine l = false
  last : ∀ l ∈ ls.getLast?, isBlankLine l = false
  inner : ls.IsChain fun l l' => ¬(isBlankLine l = true ∧ isBlankLine l' = true)

section Spaced

variable {l : String} {ls : List String}

/-- No lines are well spaced. -/
theorem isSpaced_nil : IsSpaced [] where
  first := by simp
  last := by simp
  inner := .nil

/-- A single line is well spaced if it is not blank. -/
theorem isSpaced_singleton (hl : isBlankLine l = false) : IsSpaced [l] where
  first := by simpa using hl
  last := by simpa using hl
  inner := .singleton l

/-- Another line may come in front of lines that are spaced. -/
theorem IsSpaced.cons (h : IsSpaced ls) (hl : isBlankLine l = false) : IsSpaced (l :: ls) where
  first := by simpa using hl
  last := by
    cases ls with
    | nil => simpa using hl
    | cons l' ls =>
      rw [List.getLast?_cons_cons]
      exact h.last
  inner := by
    refine h.inner.cons fun l' _ hboth => ?_
    rw [hl] at hboth
    exact Bool.false_ne_true hboth.1

/-- A blank line may come between a line and lines that are spaced. -/
theorem IsSpaced.cons_blank (h : IsSpaced ls) (hne : ls ≠ []) (hl : isBlankLine l = false) :
    IsSpaced (l :: "" :: ls) where
  first := by simpa using hl
  last := by
    obtain ⟨l', ls, rfl⟩ := List.exists_cons_of_ne_nil hne
    rw [List.getLast?_cons_cons, List.getLast?_cons_cons]
    exact h.last
  inner := by
    refine (h.inner.cons fun l' hl' hboth => ?_).cons fun l' _ hboth => ?_
    · rw [h.first l' hl'] at hboth
      exact Bool.false_ne_true hboth.2
    · rw [hl] at hboth
      exact Bool.false_ne_true hboth.1

end Spaced

/-- What stands between two texts that start alike starts like both. -/
theorem prefix_of_between {p a b c : List Char} (hab : ¬b < a) (hbc : ¬c < b) (ha : p <+: a)
    (hc : p <+: c) : p <+: b := by
  induction p generalizing a b c with
  | nil => exact List.nil_prefix
  | cons x p ih =>
    obtain ⟨s, rfl⟩ := ha
    obtain ⟨t, rfl⟩ := hc
    cases b with
    | nil => exact absurd (List.nil_lt_cons x (p ++ s)) hab
    | cons y b =>
      simp only [List.cons_append, List.cons_lt_cons_iff, not_or, not_and] at hab hbc
      -- the first character can be neither before `x` nor after it
      obtain rfl : x = y := le_antisymm (not_lt.mp hab.1) (not_lt.mp hbc.1)
      exact List.cons_prefix_cons.mpr
        ⟨rfl, ih (hab.2 rfl) (hbc.2 rfl) (List.prefix_append ..) (List.prefix_append ..)⟩

end Text

open Sections (isBlankLine)
open Text (withoutBlanks withoutBlanks_append withoutBlanks_cons withoutBlanks_empty IsSpaced)

/-- In a list that is in some order, what satisfies a condition comes in one block if everything
between two elements that satisfy it does so too. -/
theorem exists_block {α : Type} {r : α → α → Prop} {q : α → Prop} {l : List α}
    (hl : l.Pairwise r)
    (hq : ∀ a ∈ l, ∀ b ∈ l, ∀ c ∈ l, r a b → r b c → q a → q c → q b) :
    ∃ before block after, l = before ++ block ++ after ∧ (∀ a ∈ block, q a) ∧
      ∀ a ∈ before ++ after, ¬q a := by
  induction l with
  | nil => exact ⟨[], [], [], rfl, by simp, by simp⟩
  | cons a l ih =>
    obtain ⟨ha, hl⟩ := List.pairwise_cons.mp hl
    obtain ⟨before, block, after, rfl, hblock, hothers⟩ := ih hl fun b hb c hc d hd =>
      hq b (List.mem_cons_of_mem _ hb) c (List.mem_cons_of_mem _ hc) d (List.mem_cons_of_mem _ hd)
    by_cases hqa : q a
    · cases block with
      | nil =>
        refine ⟨[], [a], before ++ after, by simp, by simpa using hqa, hothers⟩
      | cons c block =>
        -- an element in front of the block would be between `a` and the first of the block
        obtain rfl : before = [] := by
          refine List.eq_nil_iff_forall_not_mem.mpr fun b hb => ?_
          have hbc : r b c := by
            rw [List.append_assoc] at hl
            exact (List.pairwise_append.mp hl).2.2 b hb c (by simp)
          have hab : r a b := ha b (by simp [hb])
          have hqb : q b := hq a List.mem_cons_self b (by simp [hb]) c (by simp) hab hbc hqa
            (hblock c List.mem_cons_self)
          exact hothers b (List.mem_append_left _ hb) hqb
        refine ⟨[], a :: c :: block, after, rfl, ?_, hothers⟩
        intro d hd
        rcases List.mem_cons.mp hd with rfl | hd
        · exact hqa
        · exact hblock d hd
    · refine ⟨a :: before, block, after, rfl, hblock, ?_⟩
      intro b hb
      rcases List.mem_cons.mp hb with rfl | hb
      · exact hqa
      · exact hothers b hb

namespace ImportEntry

/-- The prefix that an entry belongs to, if there is one. -/
def firstPrefix? (prefixes : List String) (e : ImportEntry) : Option String :=
  prefixes.find? fun p => p.toList.isPrefixOf e.package.toList

/-- What stands between two entries that follow one another. -/
def gap (prefixes : List String) (e f : ImportEntry) : List String :=
  if e.firstPrefix? prefixes = f.firstPrefix? prefixes then [] else [""]

/-- The group of the last of several entries, or the one before them if there are none. -/
def lastGroup (prefixes : List String) (last : String) (es : List ImportEntry) : String :=
  es.foldl (fun _ e => groupOf prefixes e.package) last

/-- Whether entries are in the order of their packages. -/
def InPackageOrder (es : List ImportEntry) : Prop := es.Pairwise fun e f => e.package ≤ f.package

/-- Whether no prefix is the start of another one, the empty prefix apart. -/
def ArePrefixesApart (prefixes : List String) : Prop :=
  ∀ p ∈ prefixes, p ≠ "" → ∀ q ∈ prefixes, p.toList <+: q.toList → p = q

/-- Whether entries are in the order of their packages is decided by comparing two at a time. -/
instance : DecidablePred InPackageOrder := fun es =>
  inferInstanceAs (Decidable (es.Pairwise fun e f => e.package ≤ f.package))

/-- Whether prefixes are apart is decided by comparing two at a time. -/
instance : DecidablePred ArePrefixesApart := fun prefixes =>
  inferInstanceAs (Decidable (∀ p ∈ prefixes, p ≠ "" →
    ∀ q ∈ prefixes, p.toList <+: q.toList → p = q))

section Groups

variable {prefixes : List String}

/-- The first prefix of an entry is one that its package starts with, and no earlier one does. -/
theorem firstPrefix?_eq_some_iff {e : ImportEntry} {p : String} :
    e.firstPrefix? prefixes = some p ↔ p.toList <+: e.package.toList ∧
      ∃ before after, prefixes = before ++ p :: after ∧
        ∀ q ∈ before, ¬q.toList <+: e.package.toList := by
  unfold firstPrefix?
  simp only [List.find?_eq_some_iff_append, List.isPrefixOf_iff_prefix, Bool.not_eq_true',
    ← Bool.not_eq_true]

/-- The empty prefix is that of every package that has no other, so entries without a prefix are
not told apart by it. -/
theorem groupOf_eq_groupOf_iff {e f : ImportEntry} :
    groupOf prefixes e.package = groupOf prefixes f.package ↔
      e.firstPrefix? prefixes = f.firstPrefix? prefixes := by
  have hempty : ∀ g h : ImportEntry, g.firstPrefix? prefixes = some "" →
      h.firstPrefix? prefixes ≠ none := by
    intro g h hg hh
    have hmem : "" ∈ prefixes := List.mem_of_find?_eq_some hg
    exact absurd (List.find?_eq_none.mp hh "" hmem) (by simp)
  show (e.firstPrefix? prefixes).getD "" = (f.firstPrefix? prefixes).getD "" ↔ _
  cases he : e.firstPrefix? prefixes with
  | none =>
    cases hf : f.firstPrefix? prefixes with
    | none => simp
    | some q =>
      simp only [Option.getD_none, Option.getD_some, reduceCtorEq, iff_false]
      rintro rfl
      exact hempty f e hf he
  | some p =>
    cases hf : f.firstPrefix? prefixes with
    | none =>
      simp only [Option.getD_none, Option.getD_some, reduceCtorEq, iff_false]
      rintro rfl
      exact hempty e f he hf
    | some q => simp

/-- No import declaration is blank. -/
theorem isBlankLine_text (e : ImportEntry) : isBlankLine e.text = false := by
  unfold isBlankLine text
  simp only [String.toList_append, List.all_append]
  rfl

/-- Between two entries there is a gap or not, depending on their groups. -/
theorem linesAfter_cons (e f : ImportEntry) (es : List ImportEntry) :
    linesAfter prefixes (groupOf prefixes e.package) (f :: es) =
      gap prefixes e f ++ f.text :: linesAfter prefixes (groupOf prefixes f.package) es := by
  have hgroup := @groupOf_eq_groupOf_iff prefixes f e
  simp only [linesAfter, gap, hgroup, eq_comm (a := e.firstPrefix? prefixes)]
  split <;> rfl

/-- The lines of several entries are those of the first ones, and then those of the others after
the last group. -/
theorem linesAfter_append (last : String) (es fs : List ImportEntry) :
    linesAfter prefixes last (es ++ fs) = linesAfter prefixes last es ++
      linesAfter prefixes (lastGroup prefixes last es) fs := by
  induction es generalizing last with
  | nil => rfl
  | cons e es ih =>
    simp only [List.cons_append, linesAfter, ih]
    split <;> rfl

variable (prefixes) in
/-- An import section goes on as if its first group had been there before. -/
theorem exists_lines_eq_linesAfter (es : List ImportEntry) :
    ∃ last, lines prefixes es = linesAfter prefixes last es := by
  cases es with
  | nil => exact ⟨"", rfl⟩
  | cons e es =>
    refine ⟨groupOf prefixes e.package, ?_⟩
    simp only [lines, linesAfter, if_true]

/-- Without blank lines the section has one line for each entry. -/
theorem withoutBlanks_linesAfter (last : String) (es : List ImportEntry) :
    withoutBlanks (linesAfter prefixes last es) = es.map text := by
  induction es generalizing last with
  | nil => rfl
  | cons e es ih =>
    simp only [linesAfter]
    split
    · rw [withoutBlanks_cons e.isBlankLine_text, ih, List.map_cons]
    · rw [withoutBlanks_empty, withoutBlanks_cons e.isBlankLine_text, ih, List.map_cons]

/-- Without blank lines the section has one line for each entry. -/
theorem withoutBlanks_lines (es : List ImportEntry) :
    withoutBlanks (lines prefixes es) = es.map text := by
  obtain ⟨last, hlast⟩ := exists_lines_eq_linesAfter prefixes es
  rw [hlast, withoutBlanks_linesAfter]

/-- The lines of entries are well spaced behind another line. -/
theorem isSpaced_cons_linesAfter {line : String} (hline : isBlankLine line = false)
    (last : String) (es : List ImportEntry) :
    IsSpaced (line :: linesAfter prefixes last es) := by
  induction es generalizing line last with
  | nil => exact Text.isSpaced_singleton hline
  | cons e es ih =>
    have hrest := ih e.isBlankLine_text (groupOf prefixes e.package)
    simp only [linesAfter]
    split
    · exact hrest.cons hline
    · exact hrest.cons_blank (List.cons_ne_nil _ _) hline

/-- The section is well spaced. -/
theorem isSpaced_lines (es : List ImportEntry) : IsSpaced (lines prefixes es) := by
  cases es with
  | nil => exact Text.isSpaced_nil
  | cons e es => exact isSpaced_cons_linesAfter e.isBlankLine_text _ es

/-- After an entry, the lines of entries that belong to the same prefix follow one another. -/
theorem linesAfter_append_of_firstPrefix?_eq {e : ImportEntry} {block : List ImportEntry}
    (hblock : ∀ f ∈ block, f.firstPrefix? prefixes = e.firstPrefix? prefixes)
    (after : List ImportEntry) :
    linesAfter prefixes (groupOf prefixes e.package) (block ++ after) =
      block.map text ++ linesAfter prefixes (groupOf prefixes e.package) after := by
  induction block with
  | nil => rfl
  | cons f block ih =>
    have hf := hblock f List.mem_cons_self
    rw [List.cons_append, linesAfter_cons, gap, if_pos hf.symm, groupOf_eq_groupOf_iff.mpr hf,
      ih fun g hg => hblock g (List.mem_cons_of_mem _ hg)]
    rfl

/-- The lines of entries that belong to the same prefix and follow one another do so too. -/
theorem exists_lines_append (before : List ImportEntry) {e : ImportEntry}
    {block : List ImportEntry}
    (hblock : ∀ f ∈ block, f.firstPrefix? prefixes = e.firstPrefix? prefixes)
    (after : List ImportEntry) :
    ∃ upper, withoutBlanks upper = before.map text ∧
      lines prefixes (before ++ e :: (block ++ after)) =
        upper ++ (e :: block).map text ++
          linesAfter prefixes (groupOf prefixes e.package) after := by
  obtain ⟨last, hlast⟩ :=
    exists_lines_eq_linesAfter prefixes (before ++ e :: (block ++ after))
  have hrest := linesAfter_append_of_firstPrefix?_eq hblock after
  -- a blank line in front of the first of them counts with the upper lines
  obtain ⟨opening, hopening, hblank⟩ : ∃ opening,
      linesAfter prefixes (lastGroup prefixes last before) (e :: (block ++ after)) =
        opening ++ (e :: block).map text ++
          linesAfter prefixes (groupOf prefixes e.package) after ∧
      withoutBlanks opening = [] := by
    simp only [linesAfter, hrest]
    split
    · exact ⟨[], rfl, rfl⟩
    · exact ⟨[""], rfl, rfl⟩
  refine ⟨linesAfter prefixes last before ++ opening, ?_, ?_⟩
  · rw [withoutBlanks_append, withoutBlanks_linesAfter, hblank, List.append_nil]
  · rw [hlast, linesAfter_append, hopening]
    simp only [List.append_assoc]

/-- Between two entries that follow one another stands their gap and nothing else. -/
theorem exists_lines_around_gap (before : List ImportEntry) (e f : ImportEntry)
    (after : List ImportEntry) :
    ∃ upper lower,
      lines prefixes (before ++ e :: f :: after) =
        upper ++ e.text :: (gap prefixes e f ++ f.text :: lower) ∧
      withoutBlanks upper = before.map text ∧ withoutBlanks lower = after.map text := by
  have hnone : ∀ g ∈ ([] : List ImportEntry),
      g.firstPrefix? prefixes = e.firstPrefix? prefixes := by
    intro g hg
    exact absurd hg List.not_mem_nil
  obtain ⟨upper, hupper, hlines⟩ := exists_lines_append before hnone (f :: after)
  refine ⟨upper, linesAfter prefixes (groupOf prefixes f.package) after, ?_, hupper,
    withoutBlanks_linesAfter _ after⟩
  rw [List.nil_append] at hlines
  rw [hlines, linesAfter_cons, List.append_assoc]
  rfl

/-- The lines of a block of entries that belong to one prefix are a block. -/
theorem exists_lines_around_block {p : String} (before : List ImportEntry)
    {block : List ImportEntry} (hblock : ∀ e ∈ block, e.firstPrefix? prefixes = some p)
    (after : List ImportEntry) :
    ∃ upper lower,
      lines prefixes (before ++ block ++ after) = upper ++ block.map text ++ lower ∧
      withoutBlanks upper = before.map text ∧ withoutBlanks lower = after.map text := by
  cases block with
  | nil =>
    obtain ⟨last, hlast⟩ := exists_lines_eq_linesAfter prefixes (before ++ after)
    refine ⟨linesAfter prefixes last before,
      linesAfter prefixes (lastGroup prefixes last before) after, ?_,
      withoutBlanks_linesAfter _ before, withoutBlanks_linesAfter _ after⟩
    rw [List.append_nil, hlast, linesAfter_append, List.map_nil, List.append_nil]
  | cons e block =>
    have he := hblock e List.mem_cons_self
    obtain ⟨upper, hupper, hlines⟩ := exists_lines_append before
      (fun f hf => (hblock f (List.mem_cons_of_mem _ hf)).trans he.symm) after
    refine ⟨upper, linesAfter prefixes (groupOf prefixes e.package) after, ?_, hupper,
      withoutBlanks_linesAfter _ after⟩
    rw [List.append_assoc, List.cons_append, hlines]

/-- What stands between two packages of one prefix belongs to it as well. -/
theorem firstPrefix?_of_between (hprefixes : ArePrefixesApart prefixes) {p : String} (hp : p ≠ "")
    {e f g : ImportEntry} (hef : e.package ≤ f.package) (hfg : f.package ≤ g.package)
    (he : e.firstPrefix? prefixes = some p) (hg : g.firstPrefix? prefixes = some p) :
    f.firstPrefix? prefixes = some p := by
  obtain ⟨hpe, before, after, rfl, hbefore⟩ := firstPrefix?_eq_some_iff.mp he
  obtain ⟨hpg, -⟩ := firstPrefix?_eq_some_iff.mp hg
  have hpf : p.toList <+: f.package.toList := by
    apply Text.prefix_of_between _ _ hpe hpg
    · exact fun h => absurd (String.lt_iff_toList_lt.mpr h) (not_lt.mpr hef)
    · exact fun h => absurd (String.lt_iff_toList_lt.mpr h) (not_lt.mpr hfg)
  refine firstPrefix?_eq_some_iff.mpr ⟨hpf, before, after, rfl, ?_⟩
  intro q hq hqf
  have hmem : q ∈ before ++ p :: after := List.mem_append_left _ hq
  have hpmem : p ∈ before ++ p :: after := List.mem_append_right _ List.mem_cons_self
  -- two prefixes of one package are comparable, so `q` is `p` or empty, and neither is possible
  have hqe : q.toList <+: e.package.toList := by
    rcases List.prefix_or_prefix_of_prefix hpf hqf with hpq | hqp
    · exact hprefixes p hpmem hp q hmem hpq ▸ hpe
    · exact hqp.trans hpe
  exact hbefore q hq hqe

/-- The resolved section is in the order of packages. -/
theorem inPackageOrder_resolve (threshold : Int) (implicit : List String)
    (es : List ImportEntry) : InPackageOrder (resolve threshold implicit es) := by
  have hsorted : (resolve threshold implicit es).Pairwise fun a b => precedes a b = true :=
    StableSort.pairwise_mergeSort listingOrder listingKey _
  refine hsorted.imp fun {a b} hab => ?_
  simp only [precedes, order, compareLex, compareOn, Ordering.isLE_then_iff_and] at hab
  rw [← compare_le_iff_le]
  exact Ordering.isLE_iff_ne_gt.mp hab.1

end Groups

/-- The lines of an import section are its declarations in order, with one blank line between two
that follow one another just when they belong to different prefixes; no other line is blank.  In the
order of packages, in which resolving gives the entries, those that belong to a prefix come one
after the other, and so do their lines, unless a prefix is the start of another one. -/
theorem lines_form_groups (prefixes : List String) (es : List ImportEntry) :
    withoutBlanks (lines prefixes es) = es.map text ∧
      (∀ before e f after, es = before ++ e :: f :: after → ∃ upper lower,
        lines prefixes es = upper ++ e.text ::
          ((if e.firstPrefix? prefixes = f.firstPrefix? prefixes then [] else [""]) ++
            f.text :: lower) ∧
        withoutBlanks upper = before.map text ∧ withoutBlanks lower = after.map text) ∧
      IsSpaced (lines prefixes es) ∧
      (∀ threshold implicit stored, InPackageOrder (resolve threshold implicit stored)) ∧
      (InPackageOrder es → ArePrefixesApart prefixes → ∀ p, p ≠ "" →
        ∃ before block after upper lower, es = before ++ block ++ after ∧
          (∀ e ∈ block, e.firstPrefix? prefixes = some p) ∧
          (∀ e ∈ before ++ after, e.firstPrefix? prefixes ≠ some p) ∧
          lines prefixes es = upper ++ block.map text ++ lower ∧
          withoutBlanks upper = before.map text ∧ withoutBlanks lower = after.map text) := by
  refine ⟨withoutBlanks_lines es, ?gaps, isSpaced_lines es, inPackageOrder_resolve, ?blocks⟩
  case gaps =>
    rintro before e f after rfl
    exact exists_lines_around_gap before e f after
  case blocks =>
    intro hes hprefixes p hp
    obtain ⟨before, block, after, hsplit, hblock, hothers⟩ :=
      exists_block (q := fun e => e.firstPrefix? prefixes = some p) hes
        fun e _ f _ g _ hef hfg => firstPrefix?_of_between hprefixes hp hef hfg
    obtain ⟨upper, lower, hlines⟩ := exists_lines_around_block before hblock after
    exact ⟨before, block, after, upper, lower, hsplit, hblock, hothers, hsplit ▸ hlines⟩

/-- A package that starts like `java` but not with the prefix `java.` stands in a group with those
that have no prefix, on either side of the block of `java.`. -/
theorem lines_form_groups_java :
    let prefixes := ["java.", "javax."]
    let es : List ImportEntry := [⟨"flow", "Task", false, false⟩,
      ⟨"java.io", "File", false, false⟩, ⟨"java.util", "List", false, false⟩,
      ⟨"javafx", "Stage", false, false⟩]
    InPackageOrder es ∧ ArePrefixesApart prefixes ∧
      lines prefixes es = ["import flow.Task;", "", "import java.io.File;",
        "import java.util.List;", "", "import javafx.Stage;"] ∧
      ∃ before block after, es = before ++ block ++ after ∧
        (∀ e ∈ block, e.firstPrefix? prefixes = some "java.") ∧
        ∀ e ∈ before ++ after, e.firstPrefix? prefixes ≠ some "java." := by
  intro prefixes es
  have hes : InPackageOrder es := by decide
  have hprefixes : ArePrefixesApart prefixes := by decide
  obtain ⟨-, -, -, -, hblocks⟩ := lines_form_groups prefixes es
  obtain ⟨before, block, after, -, -, hsplit, hblock, hothers, -⟩ :=
    hblocks hes hprefixes "java." (by decide)
  exact ⟨hes, hprefixes, rfl, before, block, after, hsplit, hblock, hothers⟩

end ImportEntry

end JavaScribe
