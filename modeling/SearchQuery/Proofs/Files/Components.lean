import Mathlib.Data.List.TakeWhile
import Mathlib.Tactic.Lemma
import SearchQuery.Settings.Load

/-!
# The components of a path

A path is a beginning, which is a slash, a dot or nothing, and parts with slashes between them
(`Path.parts`).  Empty parts and single dots do not count.  Going up drops the last part, which is
found at the end of the path, where the path is taken backwards: the directory of a path has all
its parts but the last (`Path.parent?_cases`).  A settings file has one part more than its directory
(`Path.components_settingsFile`).
-/

namespace SearchQuery

namespace Path

/-- The parts of a text. -/
def parts (cs : List Char) : List (List Char) :=
  (splitSlashes cs).filter isPart

section

variable {path other directory : Path} {cs r w : List Char}

/-! ## Parts -/

/-- There is always a text between slashes. -/
lemma splitSlashes_ne_nil (cs : List Char) : splitSlashes cs ≠ [] := by
  cases cs with
  | nil => simp [splitSlashes]
  | cons c cs =>
    rw [splitSlashes]
    split
    · simp
    · split <;> simp

/-- A text without slashes is one text between slashes. -/
lemma splitSlashes_of_not_mem (hw : '/' ∉ w) : splitSlashes w = [w] := by
  induction w with
  | nil => rfl
  | cons c w ih =>
    rw [List.mem_cons, not_or] at hw
    rw [splitSlashes, if_neg (Ne.symm hw.1), ih hw.2]

/-- A slash separates the texts before it from those after it. -/
lemma splitSlashes_append (cs ds : List Char) :
    splitSlashes (cs ++ '/' :: ds) = splitSlashes cs ++ splitSlashes ds := by
  induction cs with
  | nil => rfl
  | cons c cs ih =>
    rw [List.cons_append, splitSlashes, splitSlashes, ih]
    split
    · rfl
    · rcases hcs : splitSlashes cs with _ | ⟨part, parts⟩
      · exact absurd hcs (splitSlashes_ne_nil cs)
      · rfl

/-- The parts before a slash and after it. -/
lemma parts_append (cs ds : List Char) : parts (cs ++ '/' :: ds) = parts cs ++ parts ds := by
  rw [parts, splitSlashes_append, List.filter_append, parts, parts]

/-- A slash is no part. -/
lemma parts_slash (cs : List Char) : parts ('/' :: cs) = parts cs :=
  parts_append [] cs

/-- A dot before a slash is no part. -/
lemma parts_dot (cs : List Char) : parts ('.' :: '/' :: cs) = parts cs :=
  parts_append ['.'] cs

/-- A slash at the end is no part. -/
lemma parts_append_slash (cs : List Char) : parts (cs ++ ['/']) = parts cs := by
  rw [parts_append, show parts [] = [] from rfl, List.append_nil]

/-- A part that counts is the only one of its text. -/
lemma parts_of_not_mem (hw : '/' ∉ w) (hpart : isPart w = true) : parts w = [w] := by
  rw [parts, splitSlashes_of_not_mem hw, List.filter_cons_of_pos hpart, List.filter_nil]

/-- A part that counts does so backwards. -/
lemma isPart_reverse (hpart : isPart w = true) : isPart w.reverse = true := by
  simpa [isPart, List.reverse_eq_iff] using hpart

/-! ## The beginning of a path -/

/-- The beginning of a path is nothing, a slash or a dot that is a part of its own. -/
lemma leadLength_cases (cs : List Char) :
    leadLength cs = 0 ∨
      leadLength cs = 1 ∧ ((∃ ds, cs = '/' :: ds) ∨ cs = ['.'] ∨ ∃ ds, cs = '.' :: '/' :: ds) := by
  unfold leadLength
  split
  · next ds => exact Or.inr ⟨rfl, Or.inl ⟨ds, rfl⟩⟩
  · exact Or.inr ⟨rfl, Or.inr (Or.inl rfl)⟩
  · next ds => exact Or.inr ⟨rfl, Or.inr (Or.inr ⟨ds, rfl⟩)⟩
  · exact Or.inl rfl

/-- The beginning of a path is part of the path. -/
lemma leadLength_le (cs : List Char) : leadLength cs ≤ cs.length := by
  rcases leadLength_cases cs with hlead | ⟨hlead, ⟨ds, rfl⟩ | rfl | ⟨ds, rfl⟩⟩ <;> simp [hlead]

/-- The beginning of a path stays when a slash and more follows the path. -/
lemma leadLength_append {cs : List Char} (h : cs ≠ []) (ds : List Char) :
    leadLength (cs ++ '/' :: ds) = leadLength cs := by
  rcases cs with _ | ⟨c, rest⟩
  · exact absurd rfl h
  by_cases hslash : c = '/'
  · rw [hslash]
    rfl
  by_cases hdot : c = '.'
  · rw [hdot]
    rcases rest with _ | ⟨d, rest⟩
    · rfl
    · by_cases hd : d = '/'
      · rw [hd]
        rfl
      · simp [leadLength, hd]
  · simp [leadLength, hslash, hdot]

/-- The beginning of a path is no part. -/
lemma parts_drop_leadLength (cs : List Char) : parts (cs.drop (leadLength cs)) = parts cs := by
  rcases leadLength_cases cs with hlead | ⟨hlead, ⟨ds, rfl⟩ | rfl | ⟨ds, rfl⟩⟩
  · rw [hlead, List.drop_zero]
  · exact (parts_slash ds).symm
  · rfl
  · exact (parts_slash ds).trans (parts_dot ds).symm

/-- What follows the beginning of a path has its parts alone. -/
lemma parts_take_leadLength_append {r : List Char} (hr : r <+: cs.drop (leadLength cs)) :
    parts (cs.take (leadLength cs) ++ r) = parts r := by
  rcases leadLength_cases cs with hlead | ⟨hlead, ⟨ds, rfl⟩ | rfl | ⟨ds, rfl⟩⟩
  · rw [hlead]
    rfl
  · rw [hlead]
    exact parts_slash r
  · obtain rfl : r = [] := by simpa [hlead] using hr
    rfl
  · rw [hlead] at hr ⊢
    rcases r with _ | ⟨c, r⟩
    · rfl
    · obtain ⟨rfl, -⟩ := List.cons_prefix_cons.mp hr
      exact (parts_dot r).trans (parts_slash r).symm

/-- What follows the beginning of a path leaves it the beginning, unless it is a dot. -/
lemma take_leadLength_append {r : List Char} (hr : r <+: cs.drop (leadLength cs))
    (hdot : r ≠ ['.']) :
    (cs.take (leadLength cs) ++ r).take (leadLength (cs.take (leadLength cs) ++ r)) =
      cs.take (leadLength cs) := by
  rcases leadLength_cases cs with hlead | ⟨hlead, ⟨ds, rfl⟩ | rfl | ⟨ds, rfl⟩⟩
  · rw [hlead] at hr ⊢
    rw [List.drop_zero] at hr
    rw [List.take_zero, List.nil_append]
    obtain ⟨after, rfl⟩ := hr
    have hzero : leadLength r = 0 := by
      rcases leadLength_cases r with hzero | ⟨-, ⟨ds, rfl⟩ | rfl | ⟨ds, rfl⟩⟩
      · exact hzero
      · simp [leadLength] at hlead
      · exact absurd rfl hdot
      · simp [leadLength] at hlead
    rw [hzero, List.take_zero]
  · rfl
  · obtain rfl : r = [] := by simpa [hlead] using hr
    rfl
  · rw [hlead] at hr ⊢
    rcases r with _ | ⟨c, r⟩
    · rfl
    · obtain ⟨rfl, -⟩ := List.cons_prefix_cons.mp hr
      rfl

/-- The beginning and the parts of a path. -/
lemma components_eq (path : Path) :
    path.components =
      (path.text.toList.take (leadLength path.text.toList), parts path.text.toList) := by
  rw [← parts_drop_leadLength path.text.toList]
  rfl

/-- A path begins with a slash, with a dot or with its first part. -/
lemma components_fst_cases (path : Path) :
    path.components.1 = [] ∨ path.components.1 = ['/'] ∨ path.components.1 = ['.'] := by
  rw [components_eq]
  rcases leadLength_cases path.text.toList with hlead | ⟨hlead, ⟨ds, htext⟩ | htext | ⟨ds, htext⟩⟩
  · exact Or.inl (by rw [hlead, List.take_zero])
  · exact Or.inr (Or.inl (by simp [htext, leadLength]))
  · exact Or.inr (Or.inr (by simp [htext, leadLength]))
  · exact Or.inr (Or.inr (by simp [htext, leadLength]))

/-! ## Paths that are the same -/

/-- Paths are the same if they have the same components. -/
lemma same_iff_components_eq : path.same other = true ↔ path.components = other.components := by
  simp [same]

/-- Being the same goes both ways. -/
lemma same_comm (path other : Path) : path.same other = other.same path := by
  simp [same, eq_comm]

/-- Paths are the same if they begin in the same way and have the same parts. -/
lemma same_iff :
    path.same other = true ↔
      path.text.toList.take (leadLength path.text.toList) =
          other.text.toList.take (leadLength other.text.toList) ∧
        parts path.text.toList = parts other.text.toList := by
  rw [same_iff_components_eq, components_eq, components_eq, Prod.mk.injEq]

/-! ## The directory of a path -/

/-- What is dropped from the end of a path is no part. -/
lemma parts_reverse_dropEmptyEnd (cs : List Char) :
    parts (dropEmptyEnd cs).reverse = parts cs.reverse := by
  fun_induction dropEmptyEnd cs with
  | case1 cs ih => rw [ih, List.reverse_cons, parts_append_slash]
  | case2 => rfl
  | case3 cs ih =>
    rw [ih, List.reverse_cons, List.reverse_cons, List.append_assoc, List.singleton_append,
      parts_append, show parts ['.'] = [] from rfl, List.append_nil]
  | case4 => rfl

/-- What is left of a path is its beginning. -/
lemma dropEmptyEnd_suffix (cs : List Char) : dropEmptyEnd cs <:+ cs := by
  fun_induction dropEmptyEnd cs with
  | case1 cs ih => exact ih.trans (List.suffix_cons '/' cs)
  | case2 => exact List.nil_suffix
  | case3 cs ih => exact ih.trans ((List.suffix_cons '/' cs).trans (List.suffix_cons '.' _))
  | case4 cs => exact List.suffix_refl cs

/-- What ends a path is a part. -/
lemma isPart_takeWhile_dropEmptyEnd (h : dropEmptyEnd cs ≠ []) :
    isPart ((dropEmptyEnd cs).takeWhile (· ≠ '/')) = true := by
  fun_induction dropEmptyEnd cs with
  | case1 cs ih => exact ih h
  | case2 => exact absurd rfl h
  | case3 cs ih => exact ih h
  | case4 cs hslash hdot hdotslash =>
    obtain ⟨c, rest, rfl⟩ := List.exists_cons_of_ne_nil h
    have hc : c ≠ '/' := by
      rintro rfl
      exact hslash rest rfl
    rw [List.takeWhile_cons, if_pos (by simpa using hc)]
    have hne : c :: rest.takeWhile (· ≠ '/') ≠ ['.'] := by
      intro hdots
      obtain ⟨rfl, hrest⟩ := List.cons.inj hdots
      rcases rest with _ | ⟨d, rest⟩
      · exact hdot rfl
      · rw [List.takeWhile_cons] at hrest
        split at hrest
        · simp at hrest
        · next hd =>
          obtain rfl : d = '/' := by simpa using hd
          exact hdotslash rest rfl
    rw [isPart, Bool.and_eq_true]
    exact ⟨decide_eq_true (List.cons_ne_nil _ _), decide_eq_true hne⟩

/-- A dot is dropped from the end of a path. -/
lemma dropEmptyEnd_ne_dot (cs : List Char) : dropEmptyEnd cs ≠ ['.'] := by
  intro hdot
  have hpart := @isPart_takeWhile_dropEmptyEnd cs (by simp [hdot])
  simp [hdot, isPart] at hpart

/-- What is left when the last part has been dropped is the beginning of the path. -/
lemma dropPart_suffix (cs : List Char) : dropPart cs <:+ cs :=
  (dropEmptyEnd_suffix _).trans ((List.drop_suffix 1 _).trans (List.dropWhile_suffix _))

/-- What is dropped with the last part of a path, which is given backwards, is that part alone. -/
lemma parts_dropPart (h : dropEmptyEnd cs ≠ []) :
    ∃ part, parts cs.reverse = parts (dropPart (dropEmptyEnd cs)).reverse ++ [part] := by
  have hpart := isPart_takeWhile_dropEmptyEnd h
  rw [← parts_reverse_dropEmptyEnd cs, dropPart,
    parts_reverse_dropEmptyEnd (((dropEmptyEnd cs).dropWhile (· ≠ '/')).drop 1)]
  generalize dropEmptyEnd cs = body at hpart ⊢
  have hw : '/' ∉ (body.takeWhile (· ≠ '/')).reverse := by
    intro hmem
    simpa using List.mem_takeWhile_imp (List.mem_reverse.mp hmem)
  have hword := parts_of_not_mem hw (isPart_reverse hpart)
  have hbody : body.takeWhile (· ≠ '/') ++ body.dropWhile (· ≠ '/') = body :=
    List.takeWhile_append_dropWhile
  refine ⟨(body.takeWhile (· ≠ '/')).reverse, ?_⟩
  rcases hrest : body.dropWhile (· ≠ '/') with _ | ⟨d, rest⟩
  · rw [hrest, List.append_nil] at hbody
    rw [hbody] at hword ⊢
    exact hword
  · have hd := List.head?_dropWhile_not (· ≠ '/') body
    obtain rfl : d = '/' := by
      rw [hrest] at hd
      simpa using hd
    have hreverse : body.reverse =
        rest.reverse ++ '/' :: (body.takeWhile (· ≠ '/')).reverse := by
      rw [hrest] at hbody
      simpa using congrArg List.reverse hbody.symm
    rw [hreverse, parts_append, hword]
    rfl

/-- The directory of a path has all its parts but the last.  A dot has no parts, and its directory
is the empty path; no other path without parts has a directory. -/
lemma parent?_cases (path : Path) :
    (path.parent? = none ∧ path.components.2 = [] ∧ path.components.1 ≠ ['.']) ∨
      (path.parent? = some ⟨""⟩ ∧ path.components = (['.'], [])) ∨
      ∃ parent part, path.parent? = some parent ∧
        parent.components.1 = path.components.1 ∧
        path.components.2 = parent.components.2 ++ [part] := by
  rw [components_eq]
  unfold parent?
  generalize path.text.toList = cs
  dsimp only
  have hparts : parts cs = parts (cs.drop (leadLength cs)).reverse.reverse := by
    rw [List.reverse_reverse, parts_drop_leadLength]
  split
  · next hbody =>
    have hnone : parts cs = [] := by
      rw [hparts, ← parts_reverse_dropEmptyEnd, hbody]
      rfl
    split
    · next hlead => exact Or.inr (Or.inl ⟨rfl, by rw [hlead, hnone]⟩)
    · next hlead => exact Or.inl ⟨rfl, hnone, hlead⟩
  · next hbody =>
    obtain ⟨part, hdropped⟩ := parts_dropPart hbody
    have hprefix : (dropPart (dropEmptyEnd (cs.drop (leadLength cs)).reverse)).reverse <+:
        cs.drop (leadLength cs) := by
      have hsuffix :=
        (dropPart_suffix _).trans (dropEmptyEnd_suffix (cs.drop (leadLength cs)).reverse)
      rwa [← List.reverse_prefix, List.reverse_reverse] at hsuffix
    have hdot : (dropPart (dropEmptyEnd (cs.drop (leadLength cs)).reverse)).reverse ≠ ['.'] := by
      intro hdot
      exact dropEmptyEnd_ne_dot _ (List.reverse_eq_iff.mp hdot)
    refine Or.inr (Or.inr ⟨_, part, rfl, ?_, ?_⟩)
    · rw [components_eq, String.toList_ofList]
      exact take_leadLength_append hprefix hdot
    · rw [components_eq, String.toList_ofList, parts_take_leadLength_append hprefix, hparts,
        hdropped]

/-- What has a directory has one part more than it, or is a dot. -/
lemma components_of_parent? (h : path.parent? = some directory) :
    path.components = (['.'], []) ∧ directory.components = ([], []) ∨
      ∃ part, path.components = (directory.components.1, directory.components.2 ++ [part]) := by
  rcases parent?_cases path with ⟨hnone, -⟩ | ⟨hempty, hdot⟩ | ⟨parent, part, hparent, hlead, hlast⟩
  · rw [hnone] at h
    cases h
  · obtain rfl := Option.some.inj (hempty.symm.trans h)
    exact Or.inl ⟨hdot, rfl⟩
  · obtain rfl := Option.some.inj (hparent.symm.trans h)
    exact Or.inr ⟨part, Prod.ext hlead.symm hlast⟩

/-- What has no directory has no parts: it is empty, or it is a slash. -/
lemma components_of_parent?_eq_none (h : path.parent? = none) :
    path.components = ([], []) ∨ path.components = (['/'], []) := by
  rcases parent?_cases path with ⟨-, hnone, hdot⟩ | ⟨hempty, -⟩ | ⟨parent, part, hparent, -⟩
  · rcases components_fst_cases path with hlead | hlead | hlead
    · exact Or.inl (Prod.ext hlead hnone)
    · exact Or.inr (Prod.ext hlead hnone)
    · exact absurd hlead hdot
  · rw [hempty] at h
    cases h
  · rw [hparent] at h
    cases h

/-! ## Settings files -/

/-- The settings file of a directory is written after it, with a slash between if one is needed. -/
lemma toList_settingsFile (directory : Path) :
    (directory.text.toList = [] ∧
        directory.settingsFile.text.toList = settingsFileName.toList) ∨
      (∃ cs, directory.text.toList = cs ++ ['/'] ∧
        directory.settingsFile.text.toList = cs ++ '/' :: settingsFileName.toList) ∨
      directory.text.toList ≠ [] ∧
        directory.settingsFile.text.toList =
          directory.text.toList ++ '/' :: settingsFileName.toList := by
  have habsolute : isAbsolute ⟨settingsFileName⟩ = false := by decide
  unfold settingsFile join
  rw [habsolute, if_neg Bool.false_ne_true]
  split
  · next hlast =>
    have hnil : directory.text.toList = [] := List.getLast?_eq_none_iff.mp hlast
    exact Or.inl ⟨hnil, by simp [hnil]⟩
  · next hlast =>
    obtain ⟨cs, hcs⟩ := List.getLast?_eq_some_iff.mp hlast
    exact Or.inr (Or.inl ⟨cs, hcs, by simp [hcs]⟩)
  · next c hc hlast =>
    have hne : directory.text.toList ≠ [] := by
      intro hnil
      simp [hnil] at hlast
    exact Or.inr (Or.inr ⟨hne, by simp⟩)

/-- The settings file of a directory has one more part. -/
lemma components_settingsFile (directory : Path) :
    directory.settingsFile.components =
      (directory.components.1, directory.components.2 ++ [settingsFileName.toList]) := by
  have hname : parts settingsFileName.toList = [settingsFileName.toList] := by decide
  rw [Path.components_eq, Path.components_eq]
  rcases toList_settingsFile directory with ⟨hnil, htext⟩ | ⟨cs, hcs, htext⟩ | ⟨hne, htext⟩
  · rw [htext, hnil]
    decide
  · rw [htext, hcs, parts_append, hname, parts_append_slash]
    rcases cs with _ | ⟨c, cs⟩
    · rfl
    · rw [leadLength_append (List.cons_ne_nil c cs), leadLength_append (List.cons_ne_nil c cs),
        List.take_append_of_le_length (leadLength_le _),
        List.take_append_of_le_length (leadLength_le _)]
  · rw [htext, parts_append, hname, leadLength_append hne,
      List.take_append_of_le_length (leadLength_le _)]

end

end Path

end SearchQuery
