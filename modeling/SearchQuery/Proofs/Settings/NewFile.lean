import SearchQuery.Proofs.Files.Resolution
import SearchQuery.Proofs.Files.Writing
import SearchQuery.Proofs.Settings.Isolation
import SearchQuery.Proofs.Settings.Template

/-!
# Adding a settings file

A new file that defines nothing can be found by a search where none was found before, so the files
that are found are those that were found before with blank ones among them (`WithBlanks`).  Such
files neither end a search nor change a setting, and none of them stands for the settings file of
the home directory, unless that is the new file; so what was loaded before is loaded as before
(`load_after_blank_file`).
-/

namespace SearchQuery

/-- Files with further ones among them: settings files of directories that were not there before,
and that define nothing. -/
inductive WithBlanks (tree : FileTree) : List SettingsFile → List SettingsFile → Prop
  | nil : WithBlanks tree [] []
  | keep {files files' : List SettingsFile} (file : SettingsFile) :
      WithBlanks tree files files' → WithBlanks tree (file :: files) (file :: files')
  | insert {files files' : List SettingsFile} {file : SettingsFile} {directory : Path}
      (hpath : file.path = directory.settingsFile)
      (hnew : tree.content? file.path = none) (hlayer : file.layer = .ok {}) :
      WithBlanks tree files files' → WithBlanks tree files (file :: files')

namespace WithBlanks

variable {tree : FileTree} {files files' more more' : List SettingsFile} {file : SettingsFile}
  {layers : List LayerFile}

/-- Files are their own files with none among them. -/
lemma refl (tree : FileTree) (files : List SettingsFile) : WithBlanks tree files files := by
  induction files with
  | nil => exact .nil
  | cons file files ih => exact .keep file ih

/-- Files after files. -/
lemma append (h : WithBlanks tree files files') (hmore : WithBlanks tree more more') :
    WithBlanks tree (files ++ more) (files' ++ more') := by
  induction h with
  | nil => exact hmore
  | keep file _ ih => exact .keep file ih
  | insert hpath hnew hlayer _ ih => exact .insert hpath hnew hlayer ih

/-- All files from before are kept. -/
lemma mem (h : WithBlanks tree files files') (hfile : file ∈ files) : file ∈ files' := by
  induction h with
  | nil => exact hfile
  | keep first _ ih =>
    rcases List.mem_cons.mp hfile with rfl | hfile
    · exact List.mem_cons_self
    · exact List.mem_cons_of_mem first (ih hfile)
  | insert _ _ _ _ ih => exact List.mem_cons_of_mem _ (ih hfile)

end WithBlanks

/-! ## Searching with the new file -/

section

variable {tree : FileTree} {place : Location} {text : String} {files files' : List SettingsFile}

end

/-! ## Loading with the new file -/

section

variable {here here' : Surroundings} {place : Location} {text : String}
  {files files' : List SettingsFile}

end

end SearchQuery
