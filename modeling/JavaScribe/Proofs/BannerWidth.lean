import JavaScribe.Proofs.AcceptedEdit
import JavaScribe.Proofs.CompilationUnitLayout
import JavaScribe.Proofs.TidyLines
import JavaScribe.Source.Generator

/-!
# The width of banners

The three lines of a banner are drawn with the width that the settings ask for.  The last step of
making a file takes the white space away that ends a line, and so the width lasts only where a line
ends with the character that banners are drawn with.  The rules do.  The caption does as long as its
title leaves room for that character; a title that fills the room, or is cut to it, is followed by
nothing but a space, which is lost.
-/

set_option autoImplicit false

namespace JavaScribe

/-! ## Banners as they are drawn -/

namespace Style

variable {s : Style} {title indent : String}

/-- A run of hashes is as long as asked for; a negative length counts as none. -/
theorem length_hashes (n : Int) : (hashes n).length = n.toNat := by
  rw [hashes, String.length_ofList, List.length_replicate]

/-- A line that ends in hashes is tidy. -/
theorem tidy_append_hashes (line : String) {n : Int} (hn : 0 < n) :
    Text.tidy (line ++ hashes n) = line ++ hashes n := by
  obtain ⟨k, hk⟩ : ∃ k, n.toNat = k + 1 := ⟨n.toNat - 1, by omega⟩
  have hlast : (hashes n).toList = List.replicate k '#' ++ ['#'] := by
    rw [hashes, String.toList_ofList, hk, List.replicate_succ']
  exact Text.tidy_append_of_getLast hlast (by decide)

/-- A title is cut to the room that is left for it. -/
theorem length_bannerTitle (s : Style) (title indent : String) :
    (s.bannerTitle title indent).length =
      min (s.bannerWidth - indent.length - 6).toNat title.length := by
  rw [bannerTitle, String.length_ofList, List.length_take, String.length_toList]

/-- If the indentation leaves room for the frame, the rule of a banner is as wide as asked for. -/
theorem length_bannerRule (h : indent.length + 6 ≤ s.bannerWidth) :
    ((s.bannerRule indent).length : Int) = s.bannerWidth := by
  rw [bannerRule, String.length_append, String.length_append, length_hashes]
  have hsign : "// ".length = 3 := rfl
  omega

/-- If the indentation leaves room for the frame, the rule of a banner is tidy. -/
theorem tidy_bannerRule (h : indent.length + 6 ≤ s.bannerWidth) :
    Text.tidy (s.bannerRule indent) = s.bannerRule indent :=
  tidy_append_hashes _ (by omega)

/-- If the indentation leaves room for the frame, the caption of a banner is as wide as asked
for. -/
theorem length_bannerCaption (h : indent.length + 6 ≤ s.bannerWidth) :
    ((s.bannerCaption title indent).length : Int) = s.bannerWidth := by
  have htitle := length_bannerTitle s title indent
  have hsign : "// # ".length = 5 := rfl
  have hspace : " ".length = 1 := rfl
  simp only [bannerCaption, String.length_append, length_hashes]
  omega

/-- A title that leaves room for the frame behind it. -/
def LeavesRoom (s : Style) (title indent : String) : Prop :=
  (indent.length + title.length + 6 : Int) < s.bannerWidth

/-- A caption is tidy if there is room behind its title, or none for a blank to end it. -/
theorem tidy_bannerCaption_of_leavesRoom (h : s.LeavesRoom title indent) :
    Text.tidy (s.bannerCaption title indent) = s.bannerCaption title indent := by
  have htitle := length_bannerTitle s title indent
  unfold LeavesRoom at h
  exact tidy_append_hashes _ (by omega)

/-- Without room for the frame the title is cut, and nothing but a space follows it. -/
theorem tidy_bannerCaption_of_not_leavesRoom (h : ¬ s.LeavesRoom title indent) :
    Text.tidy (s.bannerCaption title indent) =
      Text.tidy (indent ++ "// # " ++ s.bannerTitle title indent) := by
  have htitle := length_bannerTitle s title indent
  unfold LeavesRoom at h
  have hframe : hashes (s.bannerWidth - indent.length - (s.bannerTitle title indent).length - 6) =
      "" := by
    rw [hashes, Int.toNat_of_nonpos (by omega)]
    rfl
  simp only [bannerCaption, hframe, String.append_empty]
  exact Text.tidy_append_space _

/-- The tidied caption is as wide as asked for just if the title leaves room. -/
theorem length_tidy_bannerCaption_iff (h : indent.length + 6 ≤ s.bannerWidth) :
    ((Text.tidy (s.bannerCaption title indent)).length : Int) = s.bannerWidth ↔
      s.LeavesRoom title indent := by
  by_cases hroom : s.LeavesRoom title indent
  · rw [tidy_bannerCaption_of_leavesRoom hroom, length_bannerCaption h]
    exact iff_of_true rfl hroom
  · refine iff_of_false ?_ hroom
    have htitle := length_bannerTitle s title indent
    have hsign : "// # ".length = 5 := rfl
    have hle := Text.length_tidy_le (indent ++ "// # " ++ s.bannerTitle title indent)
    rw [tidy_bannerCaption_of_not_leavesRoom hroom]
    simp only [String.length_append] at hle
    unfold LeavesRoom at hroom
    omega

end Style

/-! ## Banners in a finished file -/

namespace Style

variable {s : Style} {title indent : String}

/-- There are no line ends among hashes. -/
theorem newline_not_mem_hashes (n : Int) : '\n' ∉ (hashes n).toList := by
  rw [hashes, String.toList_ofList]
  intro hmem
  have hhash := List.eq_of_mem_replicate hmem
  cases hhash

/-- The rule of a banner is one line. -/
theorem newline_not_mem_bannerRule (hindent : '\n' ∉ indent.toList) :
    '\n' ∉ (s.bannerRule indent).toList := by
  simp [bannerRule, String.toList_append, hindent, newline_not_mem_hashes]

/-- The caption of a banner is one line. -/
theorem newline_not_mem_bannerCaption (hindent : '\n' ∉ indent.toList)
    (htitle : '\n' ∉ title.toList) : '\n' ∉ (s.bannerCaption title indent).toList := by
  have hcut : '\n' ∉ (s.bannerTitle title indent).toList := by
    rw [bannerTitle, String.toList_ofList]
    exact fun hmem => htitle (List.mem_of_mem_take hmem)
  simp [bannerCaption, String.toList_append, hindent, hcut, newline_not_mem_hashes]

/-- The three lines of a banner are read as they were written. -/
theorem lines_unlines_banner (hindent : '\n' ∉ indent.toList) (htitle : '\n' ∉ title.toList) :
    Text.lines (Text.unlines (s.banner title indent)) = s.banner title indent := by
  refine Text.lines_unlines (fun line hline => ?_) (List.cons_ne_nil _ _)
  simp only [banner, List.mem_cons, List.not_mem_nil, or_false] at hline
  obtain rfl | rfl | rfl := hline
  · exact newline_not_mem_bannerRule hindent
  · exact newline_not_mem_bannerCaption hindent htitle
  · exact newline_not_mem_bannerRule hindent

end Style

/-- In a formatted text a banner stands between the same lines as before.  Its rules have the width
that is asked for, and its caption has it exactly if the title leaves room for the frame.  Otherwise
the caption ends with the cut title, less the white space at the end of it. -/
theorem Settings.lines_format_banner (s : Settings) (tag : String) (c : Category)
    (indent before after : String) (hc : Category.parse tag = .ok c)
    (hindent : ∀ x ∈ indent.toList, Text.isIndent x = true)
    (hwidth : indent.length + 6 ≤ s.bannerWidth) (hending : s.lineEnding = "\n") :
    let rule := s.style.bannerRule indent
    let caption := Text.tidy (s.style.bannerCaption c.title indent)
    Text.lines (s.format
        (before ++ "\n" ++ Text.unlines (s.style.banner c.title indent) ++ "\n" ++ after)) =
      Text.lines (s.format before) ++ [rule, caption, rule] ++ Text.lines (s.format after) ∧
    (rule.length : Int) = s.bannerWidth ∧
    ((caption.length : Int) = s.bannerWidth ↔
      (indent.length + c.title.length + 6 : Int) < s.bannerWidth) ∧
    ((indent.length + c.title.length + 6 : Int) < s.bannerWidth →
      caption = s.style.bannerCaption c.title indent) ∧
    (s.bannerWidth ≤ (indent.length + c.title.length + 6 : Int) →
      caption = Text.tidy (indent ++ "// # " ++ s.style.bannerTitle c.title indent)) := by
  intro rule caption
  have hnewline : '\n' ∉ indent.toList := by
    intro hmem
    have hisIndent := hindent '\n' hmem
    simp [Text.isIndent] at hisIndent
  have htitle := Category.newline_not_mem_title hc
  have hbanner := Style.lines_unlines_banner (s := s.style) hnewline htitle
  have hrule : Text.tidy rule = rule := Style.tidy_bannerRule hwidth
  refine ⟨?lines, Style.length_bannerRule hwidth, Style.length_tidy_bannerCaption_iff hwidth,
    fun hroom => ?whole, fun hfull => ?cut⟩
  case lines =>
    have hdrawn : (s.style.banner c.title indent).map Text.tidy = [rule, caption, rule] := by
      rw [Style.banner, List.map_cons, List.map_cons, List.map_singleton, hrule]
    simp only [format, hending, Text.lines_tidyLines, Text.lines_append_newline, List.map_append,
      hbanner, hdrawn]
  case whole => exact Style.tidy_bannerCaption_of_leavesRoom (s := s.style) hroom
  case cut =>
    apply Style.tidy_bannerCaption_of_not_leavesRoom
    intro hroom
    exact absurd hroom (Int.not_lt.mpr hfull)

/-- The usual settings with banners of another width. -/
def Settings.withBanners (width : Int) : Settings :=
  ⟨4, false, "\n", 5, ["java.lang"], ["java.", "javax."], width, .string ""⟩

/-- A banner of the width 30 that has the title `Properties` at the usual depth keeps its width. -/
theorem Settings.lines_format_banner_properties :
    let s := withBanners 30
    let rule := s.style.bannerRule "    "
    let caption := s.style.bannerCaption "Properties" "    "
    Category.parse "1_Properties" = .ok ⟨"1_Properties", some 1, "Properties"⟩ ∧
      Text.lines (s.format ("class Point \x7b" ++ "\n" ++
          Text.unlines (s.style.banner "Properties" "    ") ++ "\n" ++ "\x7d")) =
        Text.lines (s.format "class Point \x7b") ++ [rule, caption, rule] ++
          Text.lines (s.format "\x7d") ∧
      rule.length = 30 ∧ caption.length = 30 := by
  intro s rule caption
  have hparse : Category.parse "1_Properties" =
      .ok ⟨"1_Properties", some 1, "Properties"⟩ := by rfl
  have hindent : ∀ x ∈ "    ".toList, Text.isIndent x = true := by
    intro x hx
    have hspace : x = ' ' := by simpa using hx
    rw [hspace]
    rfl
  obtain ⟨hlines, hrule, hcaption, hwhole, -⟩ := lines_format_banner s "1_Properties" _ "    "
    "class Point \x7b" "\x7d" hparse hindent (by decide) rfl
  have hroom : (("    ".length : Int) + "Properties".length + 6 : Int) < s.bannerWidth := by decide
  have hsame := hwhole hroom
  have hlength := hcaption.mpr hroom
  rw [hsame] at hlines hlength
  exact ⟨hparse, hlines, Int.ofNat.inj hrule, Int.ofNat.inj hlength⟩

/-- A field of the category `1_Properties` is announced by a caption of 19 characters although
banners are to have 20: the title fills the room that there is, and the space behind it is lost. -/
theorem Session.caption_shorter_than_banner :
    let point := empty.performAll
      [.openUnit "shapes" { kind := .classType, name := "Point" },
        .edit ⟨0, []⟩ (.field { type := .primitive "int", name := "x"
                                options := { category := "1_Properties" } })]
    let s := Settings.withBanners 20
    (Config.load [("banner_width", .int 20)]).map Config.settings = .ok s ∧
    ∃ t text, Target.find? point ⟨0, []⟩ = some t ∧
      ((Generator.mk s (.library .builtin)).render t).outcome = .ok text ∧
      Text.lines text = ["package shapes;", "", "class Point \x7b", "", "    // #############",
        "    // # Properties", "    // #############", "", "    int x;", "\x7d", ""] ∧
      "    // #############".length = 20 ∧ "    // # Properties".length = 19 := by
  intro point s
  have hload : (Config.load [("banner_width", .int 20)]).map Config.settings = .ok s := by rfl
  have htext : (Target.find? point ⟨0, []⟩).map
      (fun t => (t.path, Text.lines (s.format (s.sourceText t.unit)))) = some ([],
        ["package shapes;", "", "class Point \x7b", "", "    // #############",
        "    // # Properties", "    // #############", "", "    int x;", "\x7d", ""]) := by
    decide +kernel
  obtain ⟨t, hfind, ht⟩ := Option.map_eq_some_iff.mp htext
  rw [Prod.mk.injEq] at ht
  obtain ⟨hpath, hlines⟩ := ht
  refine ⟨hload, t, _, hfind, ?_, hlines, rfl, rfl⟩
  rw [Generator.render, Generator.generate_builtin hpath]
  rfl

end JavaScribe
