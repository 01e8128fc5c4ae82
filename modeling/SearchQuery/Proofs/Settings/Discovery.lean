import SearchQuery.Proofs.Files.Ancestors

/-!
# The order of settings files

The search up from a directory finds settings files in the order of the directories, and the
settings file of the home directory comes after them unless it is one of them.  So it comes last
with two exceptions: a file that calls itself the root hides it, and if it is found on the way up,
files of directories above the home directory come after it (`getLast?_discover_iff`).
-/

namespace SearchQuery

namespace Surroundings

/-! ## Searching up -/

section

variable {tree : FileTree} {directory file : Path} {directories : List Path}

/-- A directory without a settings file is passed over. -/
lemma searchUp_of_none (h : tree.isFile directory.settingsFile = false) :
    searchUp tree (directory :: directories) = searchUp tree directories := by
  simp [searchUp, h]

/-- The search ends at a file that calls itself the root. -/
lemma searchUp_of_root (h : tree.isFile directory.settingsFile = true)
    (hroot : tree.isRootFile directory.settingsFile = true) :
    searchUp tree (directory :: directories) = ⟨[directory.settingsFile], some directory⟩ := by
  simp [searchUp, h, hroot]

/-- The search goes on after any other file. -/
lemma searchUp_of_not_root (h : tree.isFile directory.settingsFile = true)
    (hroot : tree.isRootFile directory.settingsFile = false) :
    searchUp tree (directory :: directories) =
      ⟨directory.settingsFile :: (searchUp tree directories).files,
        (searchUp tree directories).rootDirectory⟩ := by
  simp [searchUp, h, hroot]

/-- Files are found in the order of the directories. -/
lemma searchUp_sublist (tree : FileTree) (directories : List Path) :
    (searchUp tree directories).files.Sublist (directories.map Path.settingsFile) := by
  fun_induction searchUp tree directories with
  | case1 => exact List.Sublist.slnil
  | case2 _ _ _ _ ih => exact ih.cons _
  | case3 => exact (List.nil_sublist _).cons_cons _
  | case4 _ _ _ _ _ _ ih => exact ih.cons_cons _

/-- Only files are found. -/
lemma isFile_of_mem_searchUp (h : file ∈ (searchUp tree directories).files) :
    tree.isFile file = true := by
  fun_induction searchUp tree directories with
  | case1 => simp at h
  | case2 directory directories first hnone ih => exact ih h
  | case3 directory directories first hfirst hroot =>
    obtain rfl := List.mem_singleton.mp h
    simpa using hfirst
  | case4 directory directories first hfirst hroot rest ih =>
    rcases List.mem_cons.mp h with rfl | h
    · simpa using hfirst
    · exact ih h

/-- A search that does not end early finds all files. -/
lemma mem_searchUp_of_rootDirectory_eq_none
    (h : (searchUp tree directories).rootDirectory = none) (hdirectory : directory ∈ directories)
    (hfile : tree.isFile directory.settingsFile = true) :
    directory.settingsFile ∈ (searchUp tree directories).files := by
  fun_induction searchUp tree directories with
  | case1 => simp at hdirectory
  | case2 nearest directories first hnone ih =>
    rcases List.mem_cons.mp hdirectory with rfl | hdirectory
    · simp [hfile, first] at hnone
    · exact ih h hdirectory
  | case3 => cases h
  | case4 nearest directories first hfirst hroot rest ih =>
    rcases List.mem_cons.mp hdirectory with rfl | hdirectory
    · exact List.mem_cons_self
    · exact List.mem_cons_of_mem _ (ih h hdirectory)

/-- A search finds nothing where there are no files. -/
lemma searchUp_files_eq_nil_iff :
    (searchUp tree directories).files = [] ↔
      ∀ directory ∈ directories, tree.isFile directory.settingsFile = false := by
  fun_induction searchUp tree directories with
  | case1 => simp
  | case2 directory directories first hnone ih =>
    have hfirst : tree.isFile directory.settingsFile = false := by simpa using hnone
    rw [ih]
    simp [hfirst]
  | case3 directory directories first hfirst hroot =>
    have hfile : tree.isFile directory.settingsFile = true := by simpa using hfirst
    simp [hfile]
  | case4 directory directories first hfirst hroot rest ih =>
    have hfile : tree.isFile directory.settingsFile = true := by simpa using hfirst
    simp [hfile]

end

/-! ## Files above others -/

/-- The file is the settings file of one of the directories, and there is another settings file
above it. -/
def HasFileAbove (tree : FileTree) (directories : List Path) (file : Path) : Prop :=
  ∃ directory above, directory :: above <:+ directories ∧ directory.settingsFile = file ∧
    ∃ other ∈ above, tree.isFile other.settingsFile = true

section

variable {tree : FileTree} {directory file : Path} {directories : List Path}

/-- A file of the first directory. -/
lemma hasFileAbove_cons_self
    (hnew : directory.settingsFile ∉ directories.map Path.settingsFile) :
    HasFileAbove tree (directory :: directories) directory.settingsFile ↔
      ∃ other ∈ directories, tree.isFile other.settingsFile = true := by
  constructor
  · rintro ⟨first, above, hsuffix, hsame, hother⟩
    rcases List.suffix_cons_iff.mp hsuffix with heq | hsuffix
    · obtain ⟨-, rfl⟩ := List.cons.inj heq
      exact hother
    · refine absurd ?_ hnew
      rw [← hsame]
      exact List.mem_map_of_mem (hsuffix.mem List.mem_cons_self)
  · intro hother
    exact ⟨directory, directories, List.suffix_refl _, rfl, hother⟩

/-- A file of another directory. -/
lemma hasFileAbove_cons_of_ne (hne : directory.settingsFile ≠ file) :
    HasFileAbove tree (directory :: directories) file ↔ HasFileAbove tree directories file := by
  constructor
  · rintro ⟨first, above, hsuffix, hsame, hother⟩
    rcases List.suffix_cons_iff.mp hsuffix with heq | hsuffix
    · obtain ⟨rfl, -⟩ := List.cons.inj heq
      exact absurd hsame hne
    · exact ⟨first, above, hsuffix, hsame, hother⟩
  · rintro ⟨first, above, hsuffix, hsame, hother⟩
    exact ⟨first, above, hsuffix.trans (List.suffix_cons _ _), hsame, hother⟩

/-- The first of some elements is the last if there are no others. -/
lemma getLast?_cons_eq_self_iff {α : Type} {x : α} {xs : List α} (h : x ∉ xs) :
    (x :: xs).getLast? = some x ↔ xs = [] := by
  refine ⟨?_, fun hnil => by rw [hnil, List.getLast?_singleton]⟩
  intro hlast
  rcases xs with _ | ⟨y, ys⟩
  · rfl
  · rw [List.getLast?_cons_cons] at hlast
    exact absurd (List.mem_of_getLast? hlast) h

/-- A file that was found comes last if it calls itself the root or no file is above it. -/
lemma getLast?_searchUp_iff (hnew : (directories.map Path.settingsFile).Nodup)
    (hfile : file ∈ (searchUp tree directories).files) :
    (searchUp tree directories).files.getLast? = some file ↔
      tree.isRootFile file = true ∨ ¬ HasFileAbove tree directories file := by
  fun_induction searchUp tree directories with
  | case1 => simp at hfile
  | case2 directory directories first hnone ih =>
    have hne : directory.settingsFile ≠ file := by
      rintro rfl
      have hisFile := isFile_of_mem_searchUp hfile
      simp [first, hisFile] at hnone
    rw [ih (List.nodup_cons.mp hnew).2 hfile, hasFileAbove_cons_of_ne hne]
  | case3 directory directories first hfirst hroot =>
    obtain rfl := List.mem_singleton.mp hfile
    simp [hroot]
  | case4 directory directories first hfirst hroot rest ih =>
    obtain ⟨hfirstnew, hnew⟩ := List.nodup_cons.mp hnew
    by_cases heq : first = file
    · -- No file comes after this one exactly when no directory above has one.
      subst heq
      have hnot : first ∉ rest.files :=
        fun h => hfirstnew ((searchUp_sublist tree directories).mem h)
      rw [getLast?_cons_eq_self_iff hnot, searchUp_files_eq_nil_iff,
        hasFileAbove_cons_self hfirstnew]
      simp [hroot]
    · have hrest : file ∈ rest.files := by
        rcases List.mem_cons.mp hfile with rfl | hrest
        · exact absurd rfl heq
        · exact hrest
      obtain ⟨second, others, hcons⟩ := List.exists_cons_of_ne_nil (List.ne_nil_of_mem hrest)
      have hlast : (first :: rest.files).getLast? = rest.files.getLast? := by
        rw [hcons, List.getLast?_cons_cons]
      rw [hlast, ih hnew hrest, hasFileAbove_cons_of_ne heq]

end

/-! ## The home directory -/

section

variable {here : Surroundings} {directory file : Path}

/-- The settings files of the directories above a path are all different. -/
lemma nodup_settingsFile (directory : Path) :
    (directory.ancestors.map Path.settingsFile).Nodup := by
  refine (Path.pairwise_settingsFile directory).imp ?_
  rintro nearer farther hdepth rfl
  omega

/-- The files that are found up from a directory, with the settings file of the home directory if it
is added. -/
lemma discover_cases (here : Surroundings) (directory : Path) :
    here.discover directory = searchUp here.files directory.ancestors ∨
      ∃ file, here.globalFile? = some file ∧ here.files.isFile file = true ∧
        (∀ other ∈ (searchUp here.files directory.ancestors).files, file.same other = false) ∧
        (searchUp here.files directory.ancestors).rootDirectory = none ∧
        here.discover directory =
          ⟨(searchUp here.files directory.ancestors).files ++ [file], none⟩ := by
  unfold discover
  dsimp only
  split
  · next file hroot hglobal =>
    split
    · next hadd =>
      rw [Bool.and_eq_true, Bool.not_eq_true', List.any_eq_false] at hadd
      refine Or.inr ⟨file, hglobal, hadd.1, ?_, hroot, rfl⟩
      intro other hother
      simpa using hadd.2 other hother
    · exact Or.inl rfl
  · exact Or.inl rfl

/-- No two files that are found are the same, whatever way they are written. -/
lemma pairwise_discover (here : Surroundings) (directory : Path) :
    (here.discover directory).files.Pairwise fun nearer farther => nearer.same farther = false := by
  have hfound : (searchUp here.files directory.ancestors).files.Pairwise
      fun nearer farther => nearer.same farther = false := by
    refine ((Path.pairwise_settingsFile directory).sublist (searchUp_sublist _ _)).imp ?_
    intro nearer farther hdepth
    rw [Bool.eq_false_iff]
    intro hsame
    rw [Path.depth_eq_of_same hsame] at hdepth
    omega
  rcases discover_cases here directory with hall | ⟨added, -, -, hnew, -, hall⟩
  · rwa [hall]
  · rw [hall, List.pairwise_append]
    refine ⟨hfound, List.pairwise_singleton _ added, ?_⟩
    intro other hother last hlast
    obtain rfl := List.mem_singleton.mp hlast
    rw [Path.same_comm]
    exact hnew other hother

/-- No file is found twice. -/
lemma nodup_discover (here : Surroundings) (directory : Path) :
    (here.discover directory).files.Nodup := by
  refine (pairwise_discover here directory).imp ?_
  rintro nearer farther hsame rfl
  simp [Path.same] at hsame

/-- The settings file of the home directory comes last if it calls itself the root or if no
directory above the home directory has a settings file. -/
lemma getLast?_discover_iff (hfile : file ∈ (here.discover directory).files)
    (hglobal : here.isGlobal file = true) :
    (here.discover directory).files.getLast? = some file ↔
      here.files.isRootFile file = true ∨ ¬ HasFileAbove here.files directory.ancestors file := by
  rcases discover_cases here directory with hfound | ⟨added, hadded, hisFile, hnew, hroot, hfound⟩
  · rw [hfound] at hfile ⊢
    exact getLast?_searchUp_iff (nodup_settingsFile directory) hfile
  · have hsame : added.same file = true := by
      rw [Path.same_comm]
      simpa [isGlobal, hadded] using hglobal
    rw [hfound] at hfile ⊢
    rcases List.mem_append.mp hfile with hfile | hfile
    · simp [hnew file hfile] at hsame
    · obtain rfl := List.mem_singleton.mp hfile
      rw [List.getLast?_concat]
      refine ⟨fun _ => Or.inr ?_, fun _ => rfl⟩
      rintro ⟨first, above, hsuffix, rfl, -⟩
      have hfirst : first ∈ directory.ancestors := hsuffix.mem List.mem_cons_self
      have hmem := mem_searchUp_of_rootDirectory_eq_none hroot hfirst hisFile
      simp [hnew _ hmem] at hsame

end

end Surroundings

end SearchQuery
