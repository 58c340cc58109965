import JavaScribe.File.Storage
import Mathlib.Data.List.Basic

/-!
# Writing a file and finding it

A text file is only put where there is no directory.  So every directory stays one and every path
that led somewhere still does, and the path that the file was written to leads to its content.
-/

set_option autoImplicit false

namespace JavaScribe.Storage

variable {s t : Storage} {location directory : List String} {p : FilePath} {content : String}

/-- Where there is a directory: at and around the working directory, around every file, and where
one was made. -/
theorem isDirectory_iff : s.isDirectory location = true ↔
    location <+: s.working ∨ ∃ n ∈ s.nodes,
      (location <+: n.1 ∧ location.length < n.1.length) ∨ (n.1 = location ∧ n.2 = .directory) := by
  simp only [isDirectory, Bool.or_eq_true, List.any_eq_true, Bool.and_eq_true, beq_iff_eq,
    List.isPrefixOf_iff_prefix, decide_eq_true_eq]
  refine or_congr_right (exists_congr fun n =>
    and_congr_right' (or_congr_right (and_congr_right' ?_)))
  cases n.2 <;> simp

/-- Leaving out a location does not change what is at another one. -/
theorem lookup_filter_ne {l : List String} (hl : l ≠ location)
    (nodes : List (List String × FileNode)) :
    (nodes.filter fun m => m.1 != location).lookup l = nodes.lookup l := by
  induction nodes with
  | nil => rfl
  | cons n nodes ih =>
    obtain ⟨m, node⟩ := n
    by_cases hm : m = location
    · have hne : (l == location) = false := by simp [hl]
      simpa [hm, List.lookup_cons, hne] using ih
    · simp [hm, List.lookup_cons, ih]

section StoreText

variable (hfree : s.isDirectory location = false)

include hfree

/-- Storing a text removes no directory. -/
theorem isDirectory_store_text {l : List String}
    (h : s.isDirectory l = true) : (s.store location (.text content)).isDirectory l = true := by
  rw [isDirectory_iff] at h ⊢
  rcases h with hworking | ⟨n, hn, hbelow⟩
  · exact .inl hworking
  · right
    by_cases hlocation : n.1 = location
    · rcases hbelow with hstrict | ⟨-, hdirectory⟩
      · refine ⟨(location, .text content), List.mem_cons_self, .inl ?_⟩
        rw [← hlocation]
        exact hstrict
      · have hoccupied : s.isDirectory location = true :=
          isDirectory_iff.mpr (.inr ⟨n, hn, .inr ⟨hlocation, hdirectory⟩⟩)
        rw [hfree] at hoccupied
        cases hoccupied
    · have hkept : n ∈ s.nodes.filter fun m => m.1 != location :=
        List.mem_filter.mpr ⟨hn, by simpa using hlocation⟩
      exact ⟨n, List.mem_cons_of_mem _ hkept, hbelow⟩

/-- Where a text was stored there is no directory, if there was none before. -/
theorem isDirectory_stored :
    (s.store location (.text content)).isDirectory location = false := by
  rw [Bool.eq_false_iff, Ne, isDirectory_iff] at hfree ⊢
  rintro (hworking | ⟨n, hn, hbelow⟩)
  · exact hfree (.inl hworking)
  · rcases List.mem_cons.mp hn with rfl | hn
    · rcases hbelow with ⟨-, hlength⟩ | ⟨-, hnode⟩
      · exact absurd hlength (Nat.lt_irrefl _)
      · cases hnode
    · exact hfree (.inr ⟨n, (List.mem_filter.mp hn).1, hbelow⟩)

/-- Where a text was stored there is the text, if there was no directory before. -/
theorem nodeAt?_stored :
    (s.store location (.text content)).nodeAt? location = some (.text content) := by
  have hlookup : (s.store location (.text content)).nodes.lookup location =
      some (.text content) := by
    simp [store]
  rw [nodeAt?, isDirectory_stored hfree, hlookup]
  rfl

/-- Storing a text leaves something wherever there was something. -/
theorem isSome_nodeAt?_store_text {l : List String}
    (h : (s.nodeAt? l).isSome = true) :
    ((s.store location (.text content)).nodeAt? l).isSome = true := by
  by_cases hl : l = location
  · rw [hl, nodeAt?_stored hfree]
    rfl
  · have hlookup : (s.store location (.text content)).nodes.lookup l = s.nodes.lookup l := by
      have hne : (l == location) = false := by simp [hl]
      rw [store, List.lookup_cons, hne]
      exact lookup_filter_ne hl s.nodes
    unfold nodeAt? at h ⊢
    by_cases hdirectory : s.isDirectory l = true
    · rw [if_pos (isDirectory_store_text hfree hdirectory)]
      rfl
    · rw [if_neg hdirectory] at h
      split
      · rfl
      · rw [hlookup]
        exact h

end StoreText

section Walk

variable {here names : List String} {name : String}

/-- How a walk goes on by one name: up with two dots, and else to what is there. -/
theorem walk_cons_eq_ok_iff : s.walk here (name :: names) = .ok location ↔
    s.isDirectory here = true ∧ ¬longestName < name.utf8ByteSize ∧
      ((name = ".." ∧ s.walk here.dropLast names = .ok location) ∨
        (name ≠ ".." ∧ (s.nodeAt? (here ++ [name])).isSome = true ∧
          s.walk (here ++ [name]) names = .ok location)) := by
  rw [walk]
  by_cases hhere : s.isDirectory here = true
  · by_cases hsize : longestName < name.utf8ByteSize
    · simp [hhere, hsize]
    · by_cases hparent : name = ".."
      · subst hparent
        rw [if_neg (by simp [hhere]), if_neg hsize, if_pos rfl]
        simp only [hhere, hsize, not_false_eq_true, true_and, ne_eq, not_true, false_and, or_false]
      · by_cases hnext : (s.nodeAt? (here ++ [name])).isSome = true <;>
          simp [hhere, hparent, hnext, hsize]
  · simp [hhere]

/-- A path leads to the same location wherever there is at least as much. -/
theorem walk_mono (hdirectory : ∀ l, s.isDirectory l = true → t.isDirectory l = true)
    (hnode : ∀ l, (s.nodeAt? l).isSome = true → (t.nodeAt? l).isSome = true)
    (h : s.walk here names = .ok location) : t.walk here names = .ok location := by
  induction names generalizing here with
  | nil => exact h
  | cons name names ih =>
    rw [walk_cons_eq_ok_iff] at h ⊢
    obtain ⟨hhere, hsize, ⟨hparent, hrest⟩ | ⟨hname, hnext, hrest⟩⟩ := h
    · exact ⟨hdirectory here hhere, hsize, .inl ⟨hparent, ih hrest⟩⟩
    · exact ⟨hdirectory here hhere, hsize, .inr ⟨hname, hnode _ hnext, ih hrest⟩⟩

/-- A walk along some names and then more goes on where the first ones lead to. -/
theorem walk_append (h : s.walk here names = .ok directory) (more : List String) :
    s.walk here (names ++ more) = s.walk directory more := by
  induction names generalizing here with
  | nil =>
    obtain rfl := Except.ok.inj h
    rfl
  | cons name names ih =>
    obtain ⟨hhere, hsize, ⟨hparent, hrest⟩ | ⟨hname, hnext, hrest⟩⟩ := walk_cons_eq_ok_iff.mp h
    · rw [List.cons_append, walk, if_neg (by simp [hhere]), if_neg hsize, if_pos hparent, ih hrest]
    · rw [List.cons_append, walk, if_neg (by simp [hhere]), if_neg hsize, if_neg hname,
        if_pos hnext, ih hrest]

end Walk

/-- How a path is resolved, unless it is not a path at all: by a walk along its parts. -/
theorem resolve_eq_iff {outcome : Except PathFault (List String)}
    (hnull : outcome ≠ .error .nullCharacter) (hlong : outcome ≠ .error .tooLong) :
    s.resolve p = outcome ↔
      (¬p.text.toList.contains '\x00' = true ∧ ¬longestPath < p.text.utf8ByteSize) ∧
        s.walk (s.start p) p.parts = outcome := by
  rw [resolve]
  by_cases hchar : p.text.toList.contains '\x00' = true
  · rw [if_pos hchar]
    exact ⟨fun h => absurd h.symm hnull, fun h => absurd hchar h.1.1⟩
  · by_cases hsize : longestPath < p.text.utf8ByteSize
    · rw [if_neg hchar, if_pos hsize]
      exact ⟨fun h => absurd h.symm hlong, fun h => absurd hsize h.1.2⟩
    · rw [if_neg hchar, if_neg hsize]
      exact (and_iff_right ⟨hchar, hsize⟩).symm

/-- A text that was stored is found by a path that leads to it. -/
theorem find_stored (hfree : s.isDirectory location = false)
    (h : (s.store location (.text content)).resolve p = .ok location) :
    (s.store location (.text content)).find p = .ok (.text content) := by
  rw [find, h]
  simp only [bind, Except.bind, nodeAt?_stored hfree]

/-- A walk leads to the same place after a text was stored. -/
theorem walk_store_text (hfree : s.isDirectory location = false) {here names : List String}
    (h : s.walk here names = .ok directory) :
    (s.store location (.text content)).walk here names = .ok directory :=
  walk_mono (fun _ => isDirectory_store_text hfree) (fun _ => isSome_nodeAt?_store_text hfree) h

/-- If only the last name is missing in a directory, a file of this name can be stored there. -/
theorem walk_last_missing {name : String} (hdirectory : s.isDirectory directory = true)
    (h : s.walk directory [name] = .error .missing) :
    ¬longestName < name.utf8ByteSize ∧ name ≠ ".." ∧
      s.isDirectory (directory ++ [name]) = false := by
  rw [walk, if_neg (by simp [hdirectory])] at h
  split at h
  · cases h
  · rename_i hsize
    split at h
    · cases h
    · rename_i hname
      split at h
      · cases h
      · rename_i hnext
        refine ⟨hsize, hname, Bool.eq_false_iff.mpr fun hoccupied => hnext ?_⟩
        rw [nodeAt?, if_pos hoccupied]
        rfl

/-- A text that replaces another one is found by the same path. -/
theorem find_overwritten (hresolve : s.resolve p = .ok location)
    (hfree : s.isDirectory location = false) :
    (s.store location (.text content)).find p = .ok (.text content) := by
  apply find_stored hfree
  rw [resolve_eq_iff (by simp) (by simp)] at hresolve ⊢
  exact ⟨hresolve.1, walk_store_text hfree hresolve.2⟩

/-- A new file is found in the directory that the rest of its path leads to. -/
theorem find_created {name : String} (hlast : p.parts.getLast? = some name)
    (hmissing : s.resolve p = .error .missing)
    (hparent : s.resolve ⟨p.slashes, p.parts.dropLast⟩ = .ok directory)
    (hdirectory : s.isDirectory directory = true) :
    (s.store (directory ++ [name]) (.text content)).find p = .ok (.text content) := by
  rw [resolve_eq_iff (by simp) (by simp)] at hmissing
  obtain ⟨hfits, hmissing⟩ := hmissing
  have hparts : p.parts.dropLast ++ [name] = p.parts :=
    List.dropLast_append_getLast? name hlast
  have hwalk : s.walk (s.start p) p.parts.dropLast = .ok directory :=
    ((resolve_eq_iff (by simp) (by simp)).mp hparent).2
  rw [← hparts, walk_append hwalk] at hmissing
  -- the walk gets as far as the directory, so it is the last name that leads nowhere
  obtain ⟨hsize, hname, hfree⟩ := walk_last_missing hdirectory hmissing
  apply find_stored hfree
  rw [resolve_eq_iff (by simp) (by simp)]
  refine ⟨hfits, ?_⟩
  have hstored : (s.store (directory ++ [name]) (.text content)).walk (s.start p)
      (p.parts.dropLast ++ [name]) = .ok (directory ++ [name]) := by
    rw [walk_append (walk_store_text hfree hwalk), walk_cons_eq_ok_iff]
    refine ⟨isDirectory_store_text hfree hdirectory, hsize, .inr ⟨hname, ?_, rfl⟩⟩
    rw [nodeAt?_stored hfree]
    rfl
  rw [hparts] at hstored
  exact hstored

/-- A file that was written is found under the path that it was written to. -/
theorem find_of_write (h : s.write p content = .ok t) : t.find p = .ok (.text content) := by
  unfold write at h
  split at h
  · rename_i location hresolve
    split at h
    · cases h
    · rename_i hoccupied
      obtain rfl := Except.ok.inj h
      exact find_overwritten hresolve (Bool.eq_false_iff.mpr hoccupied)
  · rename_i hmissing
    split at h
    · rename_i directory name hparent hlast
      split at h
      · rename_i hdirectory
        obtain rfl := Except.ok.inj h
        exact find_created hlast hmissing hparent hdirectory
      · cases h
    · cases h
  · cases h

end JavaScribe.Storage
