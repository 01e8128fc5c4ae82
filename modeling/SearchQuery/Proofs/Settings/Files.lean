import Mathlib.Data.List.Forall2
import Mathlib.Tactic.Lemma
import SearchQuery.Settings.Load

/-!
# Reading settings files

What a settings file says depends on its path and its bytes, and not on the file tree that it is in.
Files are read in turn, and all of them must be readable; the first that is not is the error.
-/

namespace SearchQuery

/-! ## Files with their bytes -/

/-- The bytes of the file that a path names, if it names one. -/
def FileTree.content? (tree : FileTree) (path : Path) : Option ByteArray :=
  match tree.lookup path with
  | .ok (.file content) => some content
  | _ => none

/-- A settings file: its path and its bytes. -/
structure SettingsFile where
  path : Path
  content : ByteArray

namespace SettingsFile

/-- The layer that the file holds. -/
def layer (file : SettingsFile) : Except LoadError Layer :=
  match String.fromUTF8? file.content with
  | none => .error (.unreadable file.path .invalidText)
  | some text => Layer.read file.path text

/-- The layer of the file, with the path. -/
def layerFile (file : SettingsFile) : Except LoadError LayerFile := do
  return LayerFile.mk file.path (← file.layer)

end SettingsFile

/-- The configuration that files give, the uppermost first. -/
def Configuration.ofSettingsFiles (files : List SettingsFile) : Except LoadError Configuration :=
  (files.mapM SettingsFile.layerFile).map Configuration.ofFiles

namespace FileTree

/-- The settings file at a path. -/
def settingsFile? (tree : FileTree) (path : Path) : Option SettingsFile :=
  (tree.content? path).map (SettingsFile.mk path)

section

variable {tree : FileTree} {path : Path} {file : SettingsFile}

/-- A path names a file if there are bytes. -/
lemma isFile_eq : tree.isFile path = (tree.content? path).isSome := by
  unfold isFile content?
  rcases tree.lookup path with _ | _ | _ <;> rfl

/-- What a settings file is made of. -/
lemma settingsFile?_eq_some_iff :
    tree.settingsFile? path = some file ↔
      file.path = path ∧ tree.content? path = some file.content := by
  unfold settingsFile?
  constructor
  · intro h
    obtain ⟨content, hcontent, rfl⟩ := Option.map_eq_some_iff.mp h
    exact ⟨rfl, hcontent⟩
  · rintro ⟨rfl, hcontent⟩
    rw [hcontent]
    rfl

/-- Whether there is a settings file. -/
lemma isFile_eq_isSome_settingsFile? : tree.isFile path = (tree.settingsFile? path).isSome := by
  rw [isFile_eq, settingsFile?, Option.isSome_map]

/-- A settings file is a file. -/
lemma isFile_of_settingsFile? (h : tree.settingsFile? path = some file) :
    tree.isFile path = true := by
  rw [isFile_eq_isSome_settingsFile?, h]
  rfl

/-- Where there is no settings file, there is no file. -/
lemma isFile_of_settingsFile?_eq_none (h : tree.settingsFile? path = none) :
    tree.isFile path = false := by
  rw [isFile_eq_isSome_settingsFile?, h]
  rfl

/-- The layer of a file is read from its bytes. -/
lemma readLayer_eq (h : tree.settingsFile? path = some file) :
    tree.readLayer path = file.layer := by
  obtain ⟨rfl, hcontent⟩ := settingsFile?_eq_some_iff.mp h
  unfold content? at hcontent
  unfold readLayer readText SettingsFile.layer
  split at hcontent
  · next hlookup =>
    obtain rfl := Option.some.inj hcontent
    rw [hlookup]
    dsimp only
    cases String.fromUTF8? file.content <;> rfl
  · simp at hcontent

end

end FileTree

/-! ## Reading files in turn -/

section

variable {α β ε : Type} {f : α → Except ε β} {xs : List α} {x : α} {e : ε}

/-- Elements succeed together if the first does and the others do. -/
lemma mapM_cons_eq_ok_iff {zs : List β} :
    (x :: xs).mapM f = .ok zs ↔ ∃ y ys, f x = .ok y ∧ xs.mapM f = .ok ys ∧ zs = y :: ys := by
  rw [List.mapM_cons]
  rcases f x with e | y
  · exact iff_of_false (by rintro ⟨⟩) (by simp)
  · rcases xs.mapM f with e | ys
    · exact iff_of_false (by rintro ⟨⟩) (by simp)
    · constructor
      · intro h
        exact ⟨y, ys, rfl, rfl, (Except.ok.inj h).symm⟩
      · rintro ⟨y', ys', hy, hys, rfl⟩
        obtain rfl := Except.ok.inj hy
        obtain rfl := Except.ok.inj hys
        rfl

/-- Elements that succeed together do so one by one. -/
lemma forall₂_of_mapM {ys : List β} (h : xs.mapM f = .ok ys) :
    List.Forall₂ (fun x y => f x = .ok y) xs ys := by
  induction xs generalizing ys with
  | nil =>
    obtain rfl := Except.ok.inj h
    exact .nil
  | cons x xs ih =>
    obtain ⟨y, ys, hx, hxs, rfl⟩ := mapM_cons_eq_ok_iff.mp h
    exact .cons hx (ih hxs)

/-- If some elements do not all succeed, more do not either. -/
lemma mapM_append_of_error (h : xs.mapM f = .error e) (ys : List α) :
    (xs ++ ys).mapM f = .error e := by
  rw [List.mapM_append, h]
  rfl

/-- Elements succeed together if each of them does. -/
lemma exists_mapM_eq_ok (h : ∀ x ∈ xs, ∃ y, f x = .ok y) : ∃ ys, xs.mapM f = .ok ys := by
  induction xs with
  | nil => exact ⟨[], rfl⟩
  | cons x xs ih =>
    obtain ⟨y, hy⟩ := h x List.mem_cons_self
    obtain ⟨ys, hys⟩ := ih fun x' hx' => h x' (List.mem_cons_of_mem x hx')
    exact ⟨y :: ys, mapM_cons_eq_ok_iff.mpr ⟨y, ys, hy, hys, rfl⟩⟩

/-- Elements do not all succeed if one of them does not. -/
lemma exists_mapM_eq_error (hx : x ∈ xs) (h : f x = .error e) : ∃ e', xs.mapM f = .error e' := by
  obtain ⟨front, rest, rfl⟩ := List.append_of_mem hx
  rw [List.mapM_append]
  rcases front.mapM f with e' | ys
  · exact ⟨e', rfl⟩
  · refine ⟨e, ?_⟩
    rw [List.mapM_cons, h]
    rfl

end

namespace Surroundings

variable {here : Surroundings} {paths : List Path} {file : SettingsFile}
  {files : List SettingsFile}

/-- The layer of a file that is read, with the path. -/
def readLayerFile (here : Surroundings) (path : Path) : Except LoadError LayerFile := do
  return LayerFile.mk path (← here.files.readLayer path)

/-- All files are read, and then their layers are put together. -/
lemma loadFiles_eq :
    here.loadFiles paths = (paths.mapM here.readLayerFile).map Configuration.ofFiles := by
  unfold loadFiles readLayerFile
  cases paths.mapM fun path => do return LayerFile.mk path (← here.files.readLayer path) <;> rfl

/-- Files that are where they are said to be are read from their bytes. -/
lemma mapM_readLayerFile
    (h : ∀ file ∈ files, here.files.settingsFile? file.path = some file) :
    (files.map SettingsFile.path).mapM here.readLayerFile = files.mapM SettingsFile.layerFile := by
  induction files with
  | nil => rfl
  | cons file files ih =>
    have hfile := h file (List.mem_cons_self ..)
    have hrest := ih fun other hother => h other (List.mem_cons_of_mem _ hother)
    have hread : here.readLayerFile file.path = file.layerFile := by
      rw [readLayerFile, FileTree.readLayer_eq hfile, SettingsFile.layerFile]
    rw [List.map_cons, List.mapM_cons, List.mapM_cons, hread, hrest]

/-- Files that are where they are said to be give the configuration that their bytes give. -/
lemma loadFiles_map_path
    (h : ∀ file ∈ files, here.files.settingsFile? file.path = some file) :
    here.loadFiles (files.map SettingsFile.path) = Configuration.ofSettingsFiles files := by
  rw [loadFiles_eq, mapM_readLayerFile h, Configuration.ofSettingsFiles]

/-- A file that cannot be read decides, whatever is found after it. -/
lemma loadFiles_append_of_error
    (h : ∀ file ∈ files, here.files.settingsFile? file.path = some file) (hfile : file ∈ files)
    {e : LoadError} (herror : file.layer = .error e) (more : List Path) :
    here.loadFiles (files.map SettingsFile.path ++ more) =
      Configuration.ofSettingsFiles files := by
  have hlayer : file.layerFile = .error e := by
    rw [SettingsFile.layerFile, herror]
    rfl
  obtain ⟨e', he'⟩ := exists_mapM_eq_error hfile hlayer
  have hread := mapM_append_of_error ((mapM_readLayerFile h).trans he') more
  rw [loadFiles_eq, hread, Configuration.ofSettingsFiles, he']

end Surroundings

end SearchQuery
