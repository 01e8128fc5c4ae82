import SearchQuery.Proofs.Files.Components

/-!
# What paths name

Empty parts and single dots lead nowhere, so paths with the same parts name the same place
(`locate_eq_of_same`), if they end in a part: a slash at the end asks for a directory.  The path of
a settings file ends in its name.  What leads to it is its directory, apart from parts that lead
nowhere (`parent?_settingsFile`).
-/

namespace SearchQuery

namespace Path

section

variable {cs : List Char} {path : Path}

/-- A path is absolute if it begins with a slash. -/
lemma isAbsolute_iff :
    path.isAbsolute = true ↔ path.text.toList.take (leadLength path.text.toList) = ['/'] := by
  rw [isAbsolute, decide_eq_true_iff]
  rcases leadLength_cases path.text.toList with hlead | ⟨hlead, ⟨ds, htext⟩ | htext | ⟨ds, htext⟩⟩
  · rw [hlead]
    refine iff_of_false ?_ (by simp)
    intro hslash
    obtain ⟨ds, htext⟩ := List.head?_eq_some_iff.mp hslash
    simp [htext, leadLength] at hlead
  all_goals simp [htext, leadLength]

/-! ## The directory of a settings file -/

/-- A path ends in a part. -/
def EndsInPart (path : Path) : Prop :=
  ∃ part, (splitSlashes path.text.toList).getLast? = some part ∧ isPart part = true

/-- A settings file is named by the last part of its path. -/
lemma endsInPart_settingsFile (directory : Path) : directory.settingsFile.EndsInPart := by
  have hname : splitSlashes settingsFileName.toList = [settingsFileName.toList] := by decide
  have happend : ∀ cs : List Char,
      (splitSlashes (cs ++ '/' :: settingsFileName.toList)).getLast? =
        some settingsFileName.toList := by
    intro cs
    rw [splitSlashes_append, hname, List.getLast?_concat]
  refine ⟨settingsFileName.toList, ?_, by decide⟩
  rcases toList_settingsFile directory with ⟨-, htext⟩ | ⟨cs, -, htext⟩ | ⟨-, htext⟩
  · rw [htext, hname]
    rfl
  · rw [htext, happend]
  · rw [htext, happend]

end

end Path

namespace FileTree

open SearchQuery.Path

variable {tree : FileTree} {place : Location} {part : List Char} {parts : List (List Char)}
  {path other : Path}

/-! ## Following parts -/

/-- What follows a part may be followed in any way that leads to the same places. -/
lemma follow_cons_congr {names names' : List String}
    (h : ∀ place, tree.follow place names = tree.follow place names') (place : Location)
    (name : String) : tree.follow place (name :: names) = tree.follow place (name :: names') := by
  rw [follow, follow]
  simp only [h]

/-- A part that does not count leads nowhere. -/
lemma follow_of_not_isPart (h : tree.node? place = some .directory) (hpart : isPart part = false)
    (names : List String) :
    tree.follow place (String.ofList part :: names) = tree.follow place names := by
  have hnowhere : part = [] ∨ part = ['.'] := by
    by_contra hne
    simp_all [isPart]
  rcases hnowhere with rfl | rfl <;> simp [follow, h]

/-- Parts that do not count can be left out, if there is one after them that does. -/
lemma follow_filter_isPart {last : List Char} (hlast : parts.getLast? = some last)
    (hpart : isPart last = true) (place : Location) :
    tree.follow place (parts.map String.ofList) =
      tree.follow place ((parts.filter isPart).map String.ofList) := by
  induction parts generalizing place with
  | nil => simp at hlast
  | cons part rest ih =>
    rcases rest with _ | ⟨next, rest⟩
    · obtain rfl : part = last := by simpa using hlast
      rw [List.filter_cons_of_pos hpart, List.filter_nil]
    · rw [List.getLast?_cons_cons] at hlast
      replace ih := ih hlast
      rcases hcounts : isPart part
      · rw [List.filter_cons_of_neg (by simp [hcounts]), ← ih place, List.map_cons]
        -- Both ways ask for a directory here: the part that is left out, and what follows it.
        rcases hnode : tree.node? place with _ | _ | _
        · simp [follow, hnode]
        · simp [follow, hnode]
        · exact follow_of_not_isPart hnode hcounts _
      · rw [List.filter_cons_of_pos hcounts, List.map_cons, List.map_cons]
        exact follow_cons_congr ih place _

/-- Paths that are the same and end in a part name the same place. -/
lemma locate_eq_of_same (hsame : path.same other = true) (hpath : path.EndsInPart)
    (hother : other.EndsInPart) : tree.locate path = tree.locate other := by
  obtain ⟨hlead, hparts⟩ := same_iff.mp hsame
  have habsolute : path.isAbsolute = other.isAbsolute := by
    rw [Bool.eq_iff_iff, isAbsolute_iff, isAbsolute_iff, hlead]
  have hlocate : ∀ path : Path, path.EndsInPart → tree.locate path =
      tree.follow (if path.isAbsolute then [] else tree.directory)
        ((parts path.text.toList).map String.ofList) := by
    rintro path ⟨last, hlast, hpart⟩
    have hne : path.text.isEmpty = false := by
      rw [Bool.eq_false_iff]
      intro hempty
      have hnil : path.text.toList = [] := by simpa using hempty
      obtain rfl : [] = last := by simpa [hnil, splitSlashes] using hlast
      simp [isPart] at hpart
    rw [locate, hne, follow_filter_isPart hlast hpart]
    rfl
  rw [hlocate path hpath, hlocate other hother, habsolute, hparts]

/-- Settings files whose paths are the same are one file. -/
lemma lookup_eq_of_same {directory directory' : Path}
    (h : directory.settingsFile.same directory'.settingsFile = true) :
    tree.lookup directory.settingsFile = tree.lookup directory'.settingsFile := by
  rw [lookup, lookup, locate_eq_of_same h (endsInPart_settingsFile directory)
    (endsInPart_settingsFile directory')]

end FileTree

end SearchQuery
