import SearchQuery.Proofs.Files.Ancestors
import SearchQuery.Proofs.Files.Resolution
import SearchQuery.Proofs.Settings.Discovery

/-!
# Which settings files are listed

The files that are found up from a directory are those of the directory and the ones above it,
nearest first, and after them at most the settings file of the home directory.  None is left out
that the search reaches, and it reaches all of them unless a file calls itself the root
(`mem_searchUp_or_root`): such a file comes last, and then the settings file of the home directory
is not looked for.

`Surroundings.Listing` says what that means for the list.  It does not mention the search: the
directories are those that lead to the one where it begins (`Path.LeadsTo`), whatever way they are
written, a file is what a path names in the tree, and a file is a root if a layer can be read from
its bytes that sets the root.
-/

namespace SearchQuery

namespace FileTree

/-- The path names a file. -/
def HoldsFile (tree : FileTree) (path : Path) : Prop :=
  ∃ content, tree.lookup path = .ok (.file content)

/-- The path names a file, and the layer that is written there sets the root. -/
def HoldsRoot (tree : FileTree) (path : Path) : Prop :=
  ∃ content text layer, tree.lookup path = .ok (.file content) ∧
    String.fromUTF8? content = some text ∧ Layer.ofText text = .ok layer ∧ layer.root = some true

variable {tree : FileTree} {path : Path}

/-- Looking for a file finds it. -/
lemma isFile_iff_holdsFile : tree.isFile path = true ↔ tree.HoldsFile path := by
  unfold isFile HoldsFile
  rcases tree.lookup path with e | content | _ <;> simp

/-- A file that calls itself the root can be read, and its layer sets the root. -/
lemma isRootFile_iff_holdsRoot : tree.isRootFile path = true ↔ tree.HoldsRoot path := by
  unfold isRootFile readLayer readText HoldsRoot
  rcases tree.lookup path with e | content | _
  · simp
  · rcases hcontent : String.fromUTF8? content with _ | text
    · simp [hcontent]
    · rcases hlayer : Layer.ofText text with e | layer
      · simp [hcontent, hlayer, Layer.read]
      · simp [hcontent, hlayer, Layer.read, Layer.isRoot]
  · simp

end FileTree

namespace Surroundings

/-! ## Files that call themselves the root -/

section

variable {tree : FileTree} {directory : Path} {directories near above : List Path}

/-- A search ends early exactly if it finds a file that calls itself the root. -/
lemma rootDirectory_eq_none_iff :
    (searchUp tree directories).rootDirectory = none ↔
      ∀ file ∈ (searchUp tree directories).files, tree.isRootFile file = false := by
  fun_induction searchUp tree directories with
  | case1 => simp
  | case2 directory directories first hnone ih => exact ih
  | case3 directory directories first hfirst hroot => simp [hroot]
  | case4 directory directories first hfirst hroot rest ih =>
    rw [ih, List.forall_mem_cons]
    simp [hroot, rest]

/-- A file is found unless a nearer one that is found calls itself the root. -/
lemma mem_searchUp_or_root (hdirectories : directories = near ++ directory :: above)
    (hfile : tree.isFile directory.settingsFile = true) :
    directory.settingsFile ∈ (searchUp tree directories).files ∨
      ∃ nearer ∈ near, nearer.settingsFile ∈ (searchUp tree directories).files ∧
        tree.isRootFile nearer.settingsFile = true := by
  induction near generalizing directories with
  | nil =>
    left
    subst hdirectories
    rw [List.nil_append]
    rcases hroot : tree.isRootFile directory.settingsFile
    · rw [searchUp_of_not_root hfile hroot]
      exact List.mem_cons_self
    · rw [searchUp_of_root hfile hroot]
      exact List.mem_cons_self
  | cons nearest near ih =>
    subst hdirectories
    rw [List.cons_append]
    rcases hnearest : tree.isFile nearest.settingsFile
    · rw [searchUp_of_none hnearest]
      refine (ih rfl).imp_right ?_
      rintro ⟨nearer, hnearer, hroot⟩
      exact ⟨nearer, List.mem_cons_of_mem _ hnearer, hroot⟩
    · rcases hroot : tree.isRootFile nearest.settingsFile
      · rw [searchUp_of_not_root hnearest hroot]
        apply (ih rfl).imp
        · exact List.mem_cons_of_mem _
        · rintro ⟨nearer, hnearer, hfound, hisRoot⟩
          exact ⟨nearer, List.mem_cons_of_mem _ hnearer, List.mem_cons_of_mem _ hfound, hisRoot⟩
      · rw [searchUp_of_root hnearest hroot]
        exact Or.inr ⟨nearest, List.mem_cons_self, List.mem_cons_self, hroot⟩

end

/-! ## The whole list -/

section

variable {here : Surroundings} {directory file : Path}

/-- The settings file of the home directory is found after a search that does not end early, there
or in the search. -/
lemma exists_same_of_globalFile (hglobal : here.globalFile? = some file)
    (hfile : here.files.isFile file = true)
    (hopen : (searchUp here.files directory.ancestors).rootDirectory = none) :
    ∃ listed ∈ (here.discover directory).files, file.same listed = true := by
  unfold discover
  dsimp only
  rw [hopen, hglobal]
  dsimp only
  rcases hfound : (searchUp here.files directory.ancestors).files.any file.same
  · -- It is not among the files of the search, so it is added.
    rw [hfile]
    exact ⟨file, List.mem_append_right _ (List.mem_singleton_self file), by simp [Path.same]⟩
  · rw [hfile]
    simpa using hfound

/-- A file that calls itself the root is the last one that is found. -/
lemma getLast?_discover_of_root (hfile : file ∈ (here.discover directory).files)
    (hroot : here.files.isRootFile file = true) :
    (here.discover directory).files.getLast? = some file := by
  rcases discover_cases here directory with hfound | ⟨added, -, -, -, hopen, hfound⟩
  · rw [hfound] at hfile ⊢
    exact (getLast?_searchUp_iff (nodup_settingsFile directory) hfile).mpr (Or.inl hroot)
  · rw [hfound] at hfile ⊢
    rcases List.mem_append.mp hfile with hfile | hfile
    · simp [rootDirectory_eq_none_iff.mp hopen file hfile] at hroot
    · obtain rfl := List.mem_singleton.mp hfile
      exact List.getLast?_concat

end

/-- Settings files as they are listed for a directory: those found on the way up, and those added to
them. -/
structure Listing (here : Surroundings) (directory : Path) (found added : List Path) : Prop where
  /-- No two files have the same path, whatever way it is written. -/
  distinct : (found ++ added).Pairwise fun nearer farther => nearer.components ≠ farther.components
  /-- All of them are files. -/
  isFile : ∀ file ∈ found ++ added, here.files.HoldsFile file
  /-- Those found belong to the directory and the ones above it, nearest first. -/
  nearestFirst : ∃ directories : List Path,
    found = directories.map (fun upper => upper.join ⟨".ods.toml"⟩) ∧
      (∀ upper ∈ directories, upper.LeadsTo directory) ∧
      directories.Pairwise fun nearer farther => farther.LeadsTo nearer
  /-- At most the settings file of the home directory is added. -/
  onlyGlobal : added = [] ∨ ∃ home, here.home = some home ∧ added = [home.join ⟨".ods.toml"⟩]
  /-- A file of one of these directories is missing only above one that sets the root. -/
  complete : ∀ upper : Path, upper.LeadsTo directory →
    here.files.HoldsFile (upper.join ⟨".ods.toml"⟩) →
      (∃ listed ∈ found, listed.components = (upper.join ⟨".ods.toml"⟩).components) ∨
        ∃ nearer : Path, upper.LeadsTo nearer ∧ nearer.join ⟨".ods.toml"⟩ ∈ found ∧
          here.files.HoldsRoot (nearer.join ⟨".ods.toml"⟩)
  /-- A file that sets the root is the last one. -/
  rootLast : ∀ file ∈ found ++ added, here.files.HoldsRoot file →
    (found ++ added).getLast? = some file
  /-- The settings file of the home directory is listed if no file on the way up sets the root. -/
  global : ∀ home, here.home = some home → here.files.HoldsFile (home.join ⟨".ods.toml"⟩) →
    (∀ file ∈ found, ¬ here.files.HoldsRoot file) →
      ∃ listed ∈ found ++ added, listed.components = (home.join ⟨".ods.toml"⟩).components

/-! ### What is found on the way up -/

section

variable {here : Surroundings} {directory upper : Path}

/-- The files that are found belong to directories that lie above one another. -/
lemma exists_directories_of_searchUp (tree : FileTree) (directory : Path) :
    ∃ directories : List Path,
      (searchUp tree directory.ancestors).files = directories.map Path.settingsFile ∧
        (∀ upper ∈ directories, upper.LeadsTo directory) ∧
        directories.Pairwise fun nearer farther => farther.LeadsTo nearer := by
  obtain ⟨directories, hsublist, hfound⟩ :=
    List.sublist_map_iff.mp (searchUp_sublist tree directory.ancestors)
  refine ⟨directories, hfound, ?_, ?_⟩
  · intro upper hupper
    exact Path.leadsTo_of_mem_ancestors (hsublist.mem hupper)
  · exact (Path.pairwise_leadsTo_ancestors directory).sublist hsublist

/-- A file of a directory above is found, whatever way it is written, unless one that calls itself
the root is found below it. -/
lemma exists_found_or_root {tree : FileTree} (habove : upper.LeadsTo directory)
    (hfile : tree.isFile upper.settingsFile = true) :
    (∃ listed ∈ (searchUp tree directory.ancestors).files,
        listed.components = upper.settingsFile.components) ∨
      ∃ nearer : Path, upper.LeadsTo nearer ∧
        nearer.settingsFile ∈ (searchUp tree directory.ancestors).files ∧
        tree.isRootFile nearer.settingsFile = true := by
  obtain ⟨met, hmet, hcomponents⟩ := Path.exists_mem_ancestors habove
  have hsettings : met.settingsFile.components = upper.settingsFile.components := by
    rw [Path.components_settingsFile, Path.components_settingsFile, hcomponents]
  have hmetfile : tree.isFile met.settingsFile = true := by
    rw [FileTree.isFile, FileTree.lookup_eq_of_same (Path.same_iff_components_eq.mpr hsettings)]
    exact hfile
  obtain ⟨near, above, hancestors⟩ := List.append_of_mem hmet
  apply (mem_searchUp_or_root hancestors hmetfile).imp
  · intro hfound
    exact ⟨met.settingsFile, hfound, hsettings⟩
  · rintro ⟨nearer, hnearer, hfound, hroot⟩
    have hpairwise := Path.pairwise_leadsTo_ancestors directory
    rw [hancestors, List.pairwise_append] at hpairwise
    have hleads := hpairwise.2.2 nearer hnearer met List.mem_cons_self
    exact ⟨nearer, hleads.congr_left hcomponents.symm, hfound, hroot⟩

/-- At most the settings file of the home directory is added to what is found on the way up. -/
lemma exists_discover_eq_append (here : Surroundings) (directory : Path) :
    ∃ added, (here.discover directory).files =
        (searchUp here.files directory.ancestors).files ++ added ∧
      (added = [] ∨ ∃ home, here.home = some home ∧ added = [home.settingsFile]) ∧
      ∀ file ∈ added, here.files.HoldsFile file := by
  rcases discover_cases here directory with hall | ⟨file, hglobal, hfile, -, -, hall⟩
  · exact ⟨[], by rw [hall, List.append_nil], Or.inl rfl, by simp⟩
  · obtain ⟨home, hhome, rfl⟩ := Option.map_eq_some_iff.mp hglobal
    refine ⟨[home.settingsFile], by rw [hall], Or.inr ⟨home, hhome, rfl⟩, ?_⟩
    simpa using FileTree.isFile_iff_holdsFile.mp hfile

end

end Surroundings

/-- The files that are found for a directory are a listing of its settings files. -/
theorem discover_lists_settings_files (here : Surroundings) (directory : Path) :
    ∃ found added, (here.discover directory).files = found ++ added ∧
      here.Listing directory found added := by
  have hisFile : ∀ file ∈ (Surroundings.searchUp here.files directory.ancestors).files,
      here.files.HoldsFile file := fun _ hfile =>
    FileTree.isFile_iff_holdsFile.mp (Surroundings.isFile_of_mem_searchUp hfile)
  obtain ⟨added, hfiles, hadded, haddedFile⟩ :=
    Surroundings.exists_discover_eq_append here directory
  refine ⟨_, added, hfiles, ?_⟩
  constructor
  case distinct =>
    rw [← hfiles]
    refine (Surroundings.pairwise_discover here directory).imp ?_
    intro nearer farther hsame hcomponents
    simp [Path.same_iff_components_eq.mpr hcomponents] at hsame
  case isFile => exact List.forall_mem_append.mpr ⟨hisFile, haddedFile⟩
  case nearestFirst => exact Surroundings.exists_directories_of_searchUp here.files directory
  case onlyGlobal => exact hadded
  case complete =>
    intro upper habove hfile
    apply (Surroundings.exists_found_or_root habove
      (FileTree.isFile_iff_holdsFile.mpr hfile)).imp_right
    rintro ⟨nearer, hleads, hfound, hroot⟩
    exact ⟨nearer, hleads, hfound, FileTree.isRootFile_iff_holdsRoot.mp hroot⟩
  case rootLast =>
    intro file hfile hroot
    rw [← hfiles] at hfile ⊢
    exact Surroundings.getLast?_discover_of_root hfile
      (FileTree.isRootFile_iff_holdsRoot.mpr hroot)
  case global =>
    intro home hhome hfile hnone
    have hopen : (Surroundings.searchUp here.files directory.ancestors).rootDirectory = none := by
      rw [Surroundings.rootDirectory_eq_none_iff]
      intro file hfound
      rw [Bool.eq_false_iff]
      intro hroot
      exact hnone file hfound (FileTree.isRootFile_iff_holdsRoot.mp hroot)
    have hglobal : here.globalFile? = some home.settingsFile := by
      rw [Surroundings.globalFile?, hhome, Option.map_some]
    obtain ⟨listed, hlisted, hsame⟩ := Surroundings.exists_same_of_globalFile hglobal
      (FileTree.isFile_iff_holdsFile.mpr hfile) hopen
    rw [← hfiles]
    exact ⟨listed, hlisted, (Path.same_iff_components_eq.mp hsame).symm⟩

/-- A directory in place of a settings file is passed over, a file that is broken does not end the
search, and the settings file of the home directory comes last.  In a project with a file that sets
the root, neither that file nor one above the project is listed. -/
theorem root_file_hides_files_above :
    let tree : FileTree :=
      ⟨[([".ods.toml"], .file "[output]\ncolor = true\n".toUTF8), (["w"], .directory),
        ([".ods.toml", "w"], .file "root = [\n".toUTF8), (["p", "w"], .directory),
        ([".ods.toml", "p", "w"], .directory), (["s", "p", "w"], .directory),
        ([".ods.toml", "s", "p", "w"], .file "[parse]\nmax_query_length = 7\n".toUTF8),
        (["r"], .directory), ([".ods.toml", "r"], .file "root = true\n".toUTF8),
        (["q", "r"], .directory), ([".ods.toml", "q", "r"], .file "root = false\n".toUTF8),
        (["h"], .directory), ([".ods.toml", "h"], .file "root = true\n".toUTF8)], []⟩
    let here : Surroundings := ⟨tree, some ⟨"/h"⟩, none⟩
    (here.discover ⟨"/w/p/s"⟩).files =
        [⟨"/w/p/s/.ods.toml"⟩, ⟨"/w/.ods.toml"⟩, ⟨"/.ods.toml"⟩, ⟨"/h/.ods.toml"⟩] ∧
      (here.discover ⟨"/r/q"⟩).files = [⟨"/r/q/.ods.toml"⟩, ⟨"/r/.ods.toml"⟩] ∧
      (tree.HoldsRoot ⟨"/r/.ods.toml"⟩ ∧ tree.HoldsRoot ⟨"/h/.ods.toml"⟩ ∧
        tree.HoldsFile ⟨"/w/.ods.toml"⟩ ∧ ¬ tree.HoldsRoot ⟨"/w/.ods.toml"⟩ ∧
        ¬ tree.HoldsFile ⟨"/w/p/.ods.toml"⟩) ∧
      (∃ found added, (here.discover ⟨"/w/p/s"⟩).files = found ++ added ∧
        here.Listing ⟨"/w/p/s"⟩ found added) ∧
      ∃ found added, (here.discover ⟨"/r/q"⟩).files = found ++ added ∧
        here.Listing ⟨"/r/q"⟩ found added := by
  intro tree here
  refine ⟨by decide +kernel, by decide +kernel, ⟨?_, ?_, ?_, ?_, ?_⟩,
    discover_lists_settings_files here ⟨"/w/p/s"⟩, discover_lists_settings_files here ⟨"/r/q"⟩⟩
  · exact FileTree.isRootFile_iff_holdsRoot.mp (by decide +kernel)
  · exact FileTree.isRootFile_iff_holdsRoot.mp (by decide +kernel)
  · exact FileTree.isFile_iff_holdsFile.mp (by decide +kernel)
  · exact FileTree.isRootFile_iff_holdsRoot.not.mp (by decide +kernel)
  · exact FileTree.isFile_iff_holdsFile.not.mp (by decide +kernel)

end SearchQuery
