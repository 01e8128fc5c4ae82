import SearchQuery.Proofs.Settings.Discovery
import SearchQuery.Proofs.Settings.Files

/-!
# What settings depend on

Settings that are searched for depend on no file beyond the one where the walk up from a directory
ends.  The walk (`FileTree.walk`) ends at the first file that calls itself the root, and also at the
first one that cannot be read.  The search goes on after a file of the second kind, and may find
more files; but all files that are found must be readable, and the first that is not is the error.
So a walk that ends in such a file decides what is loaded (`load_of_stops`), and a walk that does
not end early decides it together with the settings file of the home directory (`load_of_open`).
-/

namespace SearchQuery

/-! ## The walk up -/

namespace SettingsFile

/-- A walk ends at the file: it calls itself the root, or it cannot be read. -/
def stops (file : SettingsFile) : Bool :=
  match file.layer with
  | .ok layer => layer.isRoot
  | .error _ => true

/-- Files up to the first one where a walk ends, that file included. -/
def upToStop : List SettingsFile → List SettingsFile
  | [] => []
  | file :: files => if file.stops then [file] else file :: upToStop files

/-- The files up to the first one where a walk ends are some of the files. -/
lemma mem_of_mem_upToStop {file : SettingsFile} {files : List SettingsFile}
    (h : file ∈ upToStop files) : file ∈ files := by
  fun_induction upToStop files with
  | case1 => exact h
  | case2 first files hstops => exact List.mem_cons.mpr (Or.inl (List.mem_singleton.mp h))
  | case3 first files hopen ih =>
    rcases List.mem_cons.mp h with rfl | h
    · exact List.mem_cons_self
    · exact List.mem_cons_of_mem _ (ih h)

end SettingsFile

namespace FileTree

/-- The settings files of directories in turn, up to the first one where the walk ends. -/
def walk (tree : FileTree) (directories : List Path) : List SettingsFile :=
  SettingsFile.upToStop ((directories.map Path.settingsFile).filterMap tree.settingsFile?)

section

variable {tree : FileTree} {path directory : Path} {directories : List Path} {file : SettingsFile}

/-- A file that calls itself the root ends the walk. -/
lemma stops_of_isRootFile (h : tree.settingsFile? path = some file)
    (hroot : tree.isRootFile path = true) : file.stops = true := by
  rw [isRootFile, readLayer_eq h] at hroot
  unfold SettingsFile.stops
  cases hlayer : file.layer with
  | ok layer => simpa [hlayer] using hroot
  | error e => rfl

/-- A file where the walk ends calls itself the root or cannot be read. -/
lemma isRootFile_or_of_stops (h : tree.settingsFile? path = some file)
    (hstops : file.stops = true) :
    tree.isRootFile path = true ∨ ∃ e, file.layer = .error e := by
  rw [isRootFile, readLayer_eq h]
  unfold SettingsFile.stops at hstops
  cases hlayer : file.layer with
  | ok layer =>
    left
    simpa [hlayer] using hstops
  | error e => exact Or.inr ⟨e, rfl⟩

/-- A directory without a settings file is passed over. -/
lemma walk_of_none (h : tree.settingsFile? directory.settingsFile = none) :
    tree.walk (directory :: directories) = tree.walk directories := by
  rw [walk, List.map_cons, List.filterMap_cons_none h, walk]

/-- The walk ends at a file that calls itself the root or cannot be read. -/
lemma walk_of_stops (h : tree.settingsFile? directory.settingsFile = some file)
    (hstops : file.stops = true) : tree.walk (directory :: directories) = [file] := by
  rw [walk, List.map_cons, List.filterMap_cons_some h, SettingsFile.upToStop, if_pos hstops]

/-- The walk goes on after any other file. -/
lemma walk_of_open (h : tree.settingsFile? directory.settingsFile = some file)
    (hopen : file.stops = false) :
    tree.walk (directory :: directories) = file :: tree.walk directories := by
  rw [walk, List.map_cons, List.filterMap_cons_some h, SettingsFile.upToStop, hopen, walk]
  rfl

/-- The files of a walk are where they are said to be. -/
lemma settingsFile?_of_mem_walk (h : file ∈ tree.walk directories) :
    tree.settingsFile? file.path = some file := by
  have hmem := SettingsFile.mem_of_mem_upToStop h
  obtain ⟨path, -, hpath⟩ := List.mem_filterMap.mp hmem
  rwa [(settingsFile?_eq_some_iff.mp hpath).1]

end

end FileTree

namespace Surroundings

variable {here : Surroundings} {directory path : Path} {directories : List Path}
  {file : SettingsFile} {files : List SettingsFile}

/-! ## Searching up -/

/-- The last of some elements, if it is not the first, is the last of the others. -/
lemma getLast?_of_getLast?_cons {α : Type} {x y : α} {xs : List α}
    (h : (x :: xs).getLast? = some y) (hne : y ≠ x) : xs.getLast? = some y := by
  rcases xs with _ | ⟨z, zs⟩
  · exact absurd (Option.some.inj h).symm hne
  · rwa [List.getLast?_cons_cons] at h

/-- A file where the walk goes on does not call itself the root. -/
lemma isRootFile_of_open {tree : FileTree} (h : tree.settingsFile? path = some file)
    (hopen : file.stops = false) : tree.isRootFile path = false := by
  rw [Bool.eq_false_iff]
  intro hroot
  simp [FileTree.stops_of_isRootFile h hroot] at hopen

/-- A walk that does not end early finds all files that the search finds. -/
lemma searchUp_of_open {tree : FileTree}
    (hopen : ∀ file ∈ tree.walk directories, file.stops = false) :
    searchUp tree directories = ⟨(tree.walk directories).map SettingsFile.path, none⟩ := by
  induction directories with
  | nil => rfl
  | cons directory directories ih =>
    rcases hfirst : tree.settingsFile? directory.settingsFile with _ | first
    · rw [FileTree.walk_of_none hfirst] at hopen ⊢
      rw [searchUp_of_none (FileTree.isFile_of_settingsFile?_eq_none hfirst), ih hopen]
    · rcases hstops : first.stops
      · rw [FileTree.walk_of_open hfirst hstops] at hopen ⊢
        have hrest := ih fun other hother => hopen other (List.mem_cons_of_mem _ hother)
        rw [searchUp_of_not_root (FileTree.isFile_of_settingsFile? hfirst)
          (isRootFile_of_open hfirst hstops), hrest, List.map_cons,
          (FileTree.settingsFile?_eq_some_iff.mp hfirst).1]
      · rw [FileTree.walk_of_stops hfirst hstops] at hopen
        simpa [hstops] using hopen first (List.mem_singleton_self first)

/-- A walk that ends early finds all files that the search finds, or ends at one that cannot be
read. -/
lemma searchUp_of_stops {tree : FileTree}
    (hlast : (tree.walk directories).getLast? = some file) (hstops : file.stops = true) :
    (∃ directory, searchUp tree directories =
        ⟨(tree.walk directories).map SettingsFile.path, some directory⟩) ∨
      (∃ e, file.layer = .error e) ∧ ∃ more root, searchUp tree directories =
        ⟨(tree.walk directories).map SettingsFile.path ++ more, root⟩ := by
  induction directories with
  | nil => simp [FileTree.walk, SettingsFile.upToStop] at hlast
  | cons directory directories ih =>
    rcases hfirst : tree.settingsFile? directory.settingsFile with _ | first
    · rw [FileTree.walk_of_none hfirst] at hlast ⊢
      rw [searchUp_of_none (FileTree.isFile_of_settingsFile?_eq_none hfirst)]
      exact ih hlast
    have hpath := (FileTree.settingsFile?_eq_some_iff.mp hfirst).1
    have hfile := FileTree.isFile_of_settingsFile? hfirst
    rcases hfirststops : first.stops
    · rw [FileTree.walk_of_open hfirst hfirststops] at hlast ⊢
      have hne : file ≠ first := by
        rintro rfl
        simp [hstops] at hfirststops
      have hlast' := getLast?_of_getLast?_cons hlast hne
      rw [searchUp_of_not_root hfile (isRootFile_of_open hfirst hfirststops)]
      rcases ih hlast' with ⟨root, hrest⟩ | ⟨herror, more, root, hrest⟩
      · left
        refine ⟨root, ?_⟩
        rw [hrest, List.map_cons, hpath]
      · right
        refine ⟨herror, more, root, ?_⟩
        rw [hrest, List.map_cons, List.cons_append, hpath]
    · rw [FileTree.walk_of_stops hfirst hfirststops] at hlast ⊢
      obtain rfl := Option.some.inj hlast
      rcases hroot : tree.isRootFile directory.settingsFile
      · right
        rcases FileTree.isRootFile_or_of_stops hfirst hstops with hroot' | herror
        · simp [hroot] at hroot'
        · refine ⟨herror, (searchUp tree directories).files,
            (searchUp tree directories).rootDirectory, ?_⟩
          rw [searchUp_of_not_root hfile hroot, List.map_singleton, List.singleton_append, hpath]
      · left
        refine ⟨directory, ?_⟩
        rw [searchUp_of_root hfile hroot, List.map_singleton, hpath]

/-! ## Loading -/

/-- The settings file of the home directory, if it is not one of the files. -/
def globalFileAfter (here : Surroundings) (files : List SettingsFile) : List SettingsFile :=
  match here.globalFile? with
  | none => []
  | some path =>
    if (files.map SettingsFile.path).any path.same then []
    else (here.files.settingsFile? path).toList

/-- A walk that ends early decides what is loaded. -/
lemma load_of_stops (hlast : (here.files.walk directory.ancestors).getLast? = some file)
    (hstops : file.stops = true) :
    here.load (.discover directory) =
      Configuration.ofSettingsFiles (here.files.walk directory.ancestors) := by
  have hwhere : ∀ file ∈ here.files.walk directory.ancestors,
      here.files.settingsFile? file.path = some file :=
    fun _ => FileTree.settingsFile?_of_mem_walk
  change here.loadFiles (here.discover directory).files = _
  rcases searchUp_of_stops hlast hstops with ⟨root, hfound⟩ | ⟨⟨e, herror⟩, more, root, hfound⟩
  · unfold discover
    rw [hfound]
    exact loadFiles_map_path hwhere
  · have hfile : file ∈ here.files.walk directory.ancestors := List.mem_of_getLast? hlast
    obtain ⟨more', hmore'⟩ : ∃ more', (here.discover directory).files =
        (here.files.walk directory.ancestors).map SettingsFile.path ++ more' := by
      rcases discover_cases here directory with hall | ⟨added, -, -, -, -, hall⟩
      · exact ⟨more, by rw [hall, hfound]⟩
      · exact ⟨more ++ [added], by rw [hall, hfound, List.append_assoc]⟩
    rw [hmore']
    exact loadFiles_append_of_error hwhere hfile herror more'

/-- The settings file of the home directory is where it is said to be. -/
lemma settingsFile?_of_mem_globalFileAfter (h : file ∈ here.globalFileAfter files) :
    here.files.settingsFile? file.path = some file := by
  unfold globalFileAfter at h
  split at h
  · simp at h
  · next path hglobal =>
    split_ifs at h
    · simp at h
    · have hfile : here.files.settingsFile? path = some file := Option.mem_toList.mp h
      rwa [(FileTree.settingsFile?_eq_some_iff.mp hfile).1]

/-- After a walk that does not end early comes the settings file of the home directory. -/
lemma discover_of_open (hopen : ∀ file ∈ here.files.walk directory.ancestors, file.stops = false) :
    (here.discover directory).files =
      (here.files.walk directory.ancestors ++
        here.globalFileAfter (here.files.walk directory.ancestors)).map SettingsFile.path := by
  unfold discover globalFileAfter
  rw [searchUp_of_open hopen, List.map_append]
  rcases here.globalFile? with _ | path
  · simp
  · dsimp only
    rw [FileTree.isFile_eq_isSome_settingsFile?]
    rcases ((here.files.walk directory.ancestors).map SettingsFile.path).any path.same
    · rcases hfile : here.files.settingsFile? path with _ | file
      · simp
      · simp [(FileTree.settingsFile?_eq_some_iff.mp hfile).1]
    · simp

/-- A walk that does not end early decides what is loaded, together with the settings file of the
home directory. -/
lemma load_of_open (hopen : ∀ file ∈ here.files.walk directory.ancestors, file.stops = false) :
    here.load (.discover directory) =
      Configuration.ofSettingsFiles (here.files.walk directory.ancestors ++
        here.globalFileAfter (here.files.walk directory.ancestors)) := by
  change here.loadFiles (here.discover directory).files = _
  rw [discover_of_open hopen]
  refine loadFiles_map_path ?_
  intro file hfile
  rcases List.mem_append.mp hfile with hfile | hfile
  · exact FileTree.settingsFile?_of_mem_walk hfile
  · exact settingsFile?_of_mem_globalFileAfter hfile

/-- A file that is named is read alone. -/
lemma load_explicit :
    here.load (.explicit path) =
      match here.files.settingsFile? path with
      | none => .error (.missing path)
      | some file => Configuration.ofSettingsFiles [file] := by
  rcases hfile : here.files.settingsFile? path with _ | file
  · have hfiles : here.filesOf (.explicit path) = .error (.missing path) := by
      rw [filesOf, FileTree.isFile_eq_isSome_settingsFile?, hfile]
      rfl
    rw [load, hfiles]
    rfl
  · obtain ⟨rfl, -⟩ := FileTree.settingsFile?_eq_some_iff.mp hfile
    have hfiles : here.filesOf (.explicit file.path) = .ok [file.path] := by
      rw [filesOf, FileTree.isFile_eq_isSome_settingsFile?, hfile]
      rfl
    rw [load, hfiles]
    have hload : here.loadFiles ([file].map SettingsFile.path) =
        Configuration.ofSettingsFiles [file] := loadFiles_map_path (by simpa using hfile)
    exact hload

/-- The settings file of the home directory depends on its place and its bytes. -/
lemma globalFileAfter_congr {here' : Surroundings} (hhome : here.home = here'.home)
    (hglobal : ∀ path ∈ here.globalFile?, here.files.content? path = here'.files.content? path) :
    here.globalFileAfter files = here'.globalFileAfter files := by
  have hsame : here'.globalFile? = here.globalFile? := by rw [globalFile?, globalFile?, hhome]
  unfold globalFileAfter
  rw [hsame]
  rcases hpath : here.globalFile? with _ | path
  · rfl
  · dsimp only
    rw [FileTree.settingsFile?, FileTree.settingsFile?, hglobal path hpath]

end Surroundings

/-- Settings that are searched for depend on the walk alone if it ends early, and else on the walk
and the settings file of the home directory; settings from one file depend on that file alone. -/
theorem load_depends_on_walk (here here' : Surroundings) :
    (∀ directory : Path,
      here.files.walk directory.ancestors = here'.files.walk directory.ancestors →
        ((∃ file ∈ (here.files.walk directory.ancestors).getLast?, file.stops = true) →
          here.load (.discover directory) = here'.load (.discover directory)) ∧
        ((∀ file ∈ here.files.walk directory.ancestors, file.stops = false) →
          here.home = here'.home →
            (∀ path ∈ here.globalFile?,
              here.files.content? path = here'.files.content? path) →
              here.load (.discover directory) = here'.load (.discover directory))) ∧
      ∀ path : Path, here.files.content? path = here'.files.content? path →
        here.load (.explicit path) = here'.load (.explicit path) := by
  refine ⟨?_, ?_⟩
  · intro directory hwalk
    refine ⟨?_, ?_⟩
    · rintro ⟨file, hlast, hstops⟩
      rw [Surroundings.load_of_stops hlast hstops, hwalk]
      rw [hwalk] at hlast
      exact (Surroundings.load_of_stops hlast hstops).symm
    · intro hopen hhome hglobal
      rw [Surroundings.load_of_open hopen, Surroundings.globalFileAfter_congr hhome hglobal, hwalk]
      rw [hwalk] at hopen
      exact (Surroundings.load_of_open hopen).symm
  · intro path hcontent
    rw [Surroundings.load_explicit, Surroundings.load_explicit, FileTree.settingsFile?,
      FileTree.settingsFile?, hcontent]

/-- A broken file above the root changes nothing below the root, and nothing where it is not on the
way up. -/
theorem broken_file_above_root_changes_nothing :
    let near : SettingsFile := ⟨⟨"/v/w/p/.ods.toml"⟩, "[parse]\nmax_query_length = 7\n".toUTF8⟩
    let root : SettingsFile := ⟨⟨"/v/w/.ods.toml"⟩, "root = true\n".toUTF8⟩
    let other : SettingsFile := ⟨⟨"/d/.ods.toml"⟩, "[output]\ncolor = false\n".toUTF8⟩
    let tree : FileTree :=
      ⟨[(["v"], .directory), (["w", "v"], .directory), (["p", "w", "v"], .directory),
        ([".ods.toml", "p", "w", "v"], .file near.content),
        ([".ods.toml", "w", "v"], .file root.content), (["d"], .directory),
        ([".ods.toml", "d"], .file other.content), (["h"], .directory),
        ([".ods.toml", "h"], .file "[output]\ncolor = true\n".toUTF8)], []⟩
    let here : Surroundings := ⟨tree, some ⟨"/h"⟩, none⟩
    let here' : Surroundings :=
      ⟨tree.set [".ods.toml", "v"] (.file "root = maybe\n".toUTF8), some ⟨"/h"⟩, none⟩
    (here.files.isFile ⟨"/v/.ods.toml"⟩ = false ∧ here'.files.isFile ⟨"/v/.ods.toml"⟩ = true) ∧
    (here.files.walk (Path.ancestors ⟨"/v/w/p"⟩) = [near, root] ∧
      here'.files.walk (Path.ancestors ⟨"/v/w/p"⟩) = [near, root] ∧ root.stops = true ∧
      here.load (.discover ⟨"/v/w/p"⟩) = here'.load (.discover ⟨"/v/w/p"⟩)) ∧
    (here.files.walk (Path.ancestors ⟨"/d"⟩) = [other] ∧
      here'.files.walk (Path.ancestors ⟨"/d"⟩) = [other] ∧ other.stops = false ∧
      here.home = here'.home ∧ here.globalFile? = some ⟨"/h/.ods.toml"⟩ ∧
      here.files.content? ⟨"/h/.ods.toml"⟩ = here'.files.content? ⟨"/h/.ods.toml"⟩ ∧
      here.load (.discover ⟨"/d"⟩) = here'.load (.discover ⟨"/d"⟩)) ∧
    here.load (.explicit ⟨"/h/.ods.toml"⟩) = here'.load (.explicit ⟨"/h/.ods.toml"⟩) := by
  intro near root other tree here here'
  have hnear : near.stops = false := by decide +kernel
  have hroot : root.stops = true := by decide +kernel
  have hother : other.stops = false := by decide +kernel
  have hinner : Path.ancestors ⟨"/v/w/p"⟩ = [⟨"/v/w/p"⟩, ⟨"/v/w"⟩, ⟨"/v"⟩, ⟨"/"⟩] := by
    decide +kernel
  have houter : Path.ancestors ⟨"/d"⟩ = [⟨"/d"⟩, ⟨"/"⟩] := by decide +kernel
  have hwalk : ∀ t : FileTree, t.settingsFile? (Path.settingsFile ⟨"/v/w/p"⟩) = some near →
      t.settingsFile? (Path.settingsFile ⟨"/v/w"⟩) = some root →
        t.walk (Path.ancestors ⟨"/v/w/p"⟩) = [near, root] := by
    intro t hfirst hsecond
    rw [hinner, FileTree.walk_of_open hfirst hnear, FileTree.walk_of_stops hsecond hroot]
  have hwalk' : ∀ t : FileTree, t.settingsFile? (Path.settingsFile ⟨"/d"⟩) = some other →
      t.settingsFile? (Path.settingsFile ⟨"/"⟩) = none →
        t.walk (Path.ancestors ⟨"/d"⟩) = [other] := by
    intro t hfirst hsecond
    rw [houter, FileTree.walk_of_open hfirst hother, FileTree.walk_of_none hsecond]
    rfl
  have hbelow := hwalk here.files rfl rfl
  have hbelow' := hwalk here'.files rfl rfl
  have haside := hwalk' here.files rfl rfl
  have haside' := hwalk' here'.files rfl rfl
  have hglobal : here.files.content? ⟨"/h/.ods.toml"⟩ = here'.files.content? ⟨"/h/.ods.toml"⟩ := rfl
  obtain ⟨hdiscover, hexplicit⟩ := load_depends_on_walk here here'
  have hloadbelow := (hdiscover ⟨"/v/w/p"⟩ (hbelow.trans hbelow'.symm)).1
    ⟨root, by rw [hbelow]; rfl, hroot⟩
  have hloadaside := (hdiscover ⟨"/d"⟩ (haside.trans haside'.symm)).2
    (by rw [haside]; simpa using hother) rfl (by rintro path ⟨⟩; exact hglobal)
  exact ⟨⟨by decide +kernel, by decide +kernel⟩, ⟨hbelow, hbelow', hroot, hloadbelow⟩,
    ⟨haside, haside', hother, rfl, rfl, hglobal, hloadaside⟩, hexplicit _ hglobal⟩

end SearchQuery
