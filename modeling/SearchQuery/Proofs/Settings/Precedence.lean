import SearchQuery.Proofs.Settings.Discovery
import SearchQuery.Proofs.Settings.Files

/-!
# Which layer gives a setting its value

A setting has the value of the first layer that defines it, and its default value if none does,
whatever the layers say about other settings (`Setting.value_ofLayers`).  For files that have been
loaded, this names the first file that defines the setting (`Surroundings.value_of_loadFiles`).  So
the settings file of the home directory decides only what no other file does, as long as it comes
last; when it does is what `global_file_has_lowest_rank_iff` says.
-/

namespace SearchQuery

/-- The settings that a layer may define. -/
inductive Setting where
  | maxQueryLength
  | format
  | color
  deriving DecidableEq, Repr

namespace Setting

/-- What the setting may be. -/
abbrev Value : Setting → Type
  | maxQueryLength => Nat
  | format => OutputFormat
  | color => Bool

/-- The value of the setting among all settings. -/
def value : (setting : Setting) → Settings → setting.Value
  | maxQueryLength, settings => settings.parse.maxQueryLength
  | format, settings => settings.output.format
  | color, settings => settings.output.color

/-- The value that a layer defines for the setting. -/
def defined? : (setting : Setting) → Layer → Option setting.Value
  | maxQueryLength, layer => layer.parse.bind ParseLayer.maxQueryLength
  | format, layer => layer.output.bind OutputLayer.format
  | color, layer => layer.output.bind OutputLayer.color

variable {setting : Setting} {layer : Layer} {layers : List Layer} {settings : Settings}

/-- A layer overwrites what it defines and nothing else. -/
lemma value_applyTo :
    setting.value (layer.applyTo settings) =
      (setting.defined? layer).getD (setting.value settings) := by
  obtain ⟨root, parse, output⟩ := layer
  cases setting with
  | maxQueryLength => cases parse <;> rfl
  | format => cases output <;> rfl
  | color => cases output <;> rfl

/-- A setting has the value of the first layer that defines it, or its default value. -/
lemma value_ofLayers :
    setting.value (Settings.ofLayers layers) =
      (layers.findSome? setting.defined?).getD (setting.value {}) := by
  induction layers with
  | nil => rfl
  | cons layer layers ih =>
    have happly : Settings.ofLayers (layer :: layers) =
        layer.applyTo (Settings.ofLayers layers) := rfl
    rw [happly, value_applyTo, ih, List.findSome?_cons]
    cases setting.defined? layer <;> rfl

end Setting

namespace Surroundings

variable {here : Surroundings} {path : Path} {files : List Path} {layerFile : LayerFile}
  {layerFiles : List LayerFile} {configuration : Configuration}

/-- The value that a file defines for a setting, if the file can be read. -/
def defined? (here : Surroundings) (setting : Setting) (file : Path) : Option setting.Value :=
  match here.files.readLayer file with
  | .ok layer => setting.defined? layer
  | .error _ => none

/-- A file that can be read defines what its layer defines. -/
lemma defined?_of_readLayerFile (setting : Setting) (h : here.readLayerFile path = .ok layerFile) :
    here.defined? setting path = setting.defined? layerFile.layer := by
  unfold readLayerFile at h
  unfold defined?
  rcases hread : here.files.readLayer path with e | layer
  · rw [hread] at h
    cases h
  · rw [hread] at h
    obtain rfl := Except.ok.inj h
    rfl

/-- Files that can all be read define what their layers define. -/
lemma findSome?_defined? (setting : Setting)
    (h : List.Forall₂ (fun path layerFile => here.readLayerFile path = .ok layerFile) files
      layerFiles) :
    files.findSome? (here.defined? setting) =
      (layerFiles.map LayerFile.layer).findSome? setting.defined? := by
  induction h with
  | nil => rfl
  | cons hread _ ih =>
    rw [List.map_cons, List.findSome?_cons, List.findSome?_cons, ih,
      defined?_of_readLayerFile setting hread]

/-- A setting has the value of the first file that defines it, or its default value. -/
lemma value_of_loadFiles (setting : Setting) (h : here.loadFiles files = .ok configuration) :
    setting.value configuration.settings =
      (files.findSome? (here.defined? setting)).getD (setting.value {}) := by
  rw [loadFiles_eq] at h
  rcases hlayers : files.mapM here.readLayerFile with e | layerFiles
  · rw [hlayers] at h
    cases h
  · rw [hlayers] at h
    obtain rfl := Except.ok.inj h
    rw [findSome?_defined? setting (forall₂_of_mapM hlayers)]
    exact Setting.value_ofLayers

end Surroundings

/-! ## The home directory -/

section

variable {here : Surroundings} {directory file : Path}

/-- Of elements that are all different, those that are not the last are those before it. -/
lemma filter_ne_append_singleton {front : List Path} (h : (front ++ [file]).Nodup) :
    (front ++ [file]).filter (· ≠ file) = front := by
  have hnew : ∀ other ∈ front, other ≠ file := by
    intro other hother
    exact (List.nodup_append.mp h).2.2 other hother file List.mem_cons_self
  rw [List.filter_append, List.filter_eq_self.mpr (by simpa using hnew)]
  simp

/-- The settings file of the home directory has the lowest rank among the files that are found if it
calls itself the root or no directory above the home directory has a settings file, and only then;
a setting that another file defines then has its value from there. -/
theorem global_file_has_lowest_rank_iff (hfile : file ∈ (here.discover directory).files)
    (hglobal : here.isGlobal file = true) :
    ((here.discover directory).files.getLast? = some file ↔
        here.files.isRootFile file = true ∨
          ¬ Surroundings.HasFileAbove here.files directory.ancestors file) ∧
      ((here.discover directory).files.getLast? = some file →
        ∀ configuration, here.load (.discover directory) = .ok configuration →
          ∀ (setting : Setting) (value : setting.Value),
            ((here.discover directory).files.filter (· ≠ file)).findSome?
                (here.defined? setting) = some value →
              setting.value configuration.settings = value) := by
  refine ⟨Surroundings.getLast?_discover_iff hfile hglobal, ?_⟩
  intro hlast configuration hload setting value hvalue
  obtain ⟨front, hfront⟩ := List.getLast?_eq_some_iff.mp hlast
  have hnodup := Surroundings.nodup_discover here directory
  have hfiles : here.loadFiles (here.discover directory).files = .ok configuration := hload
  rw [hfront] at hnodup hfiles hvalue
  rw [filter_ne_append_singleton hnodup] at hvalue
  rw [Surroundings.value_of_loadFiles setting hfiles, List.findSome?_append, hvalue]
  rfl

/-- The settings file of a project below the home directory overrules the one of the home
directory. -/
theorem project_file_overrules_home_file :
    let tree : FileTree :=
      ⟨[(["home"], .directory),
        ([".ods.toml", "home"], .file "[parse]\nmax_query_length = 2\n".toUTF8),
        (["p", "home"], .directory),
        ([".ods.toml", "p", "home"], .file "[parse]\nmax_query_length = 1\n".toUTF8)],
        ["p", "home"]⟩
    let here : Surroundings := ⟨tree, some ⟨"/home"⟩, none⟩
    let homeFile : Path := ⟨"/home/.ods.toml"⟩
    let files := (here.discover here.directory).files
    (homeFile ∈ files ∧ here.isGlobal homeFile = true) ∧
      (files.getLast? = some homeFile ↔
        tree.isRootFile homeFile = true ∨
          ¬ Surroundings.HasFileAbove tree here.directory.ancestors homeFile) ∧
      files.getLast? = some homeFile ∧
      (files.filter (· ≠ homeFile)).findSome? (here.defined? .maxQueryLength) = some 1 ∧
      ∃ configuration, here.load (.discover here.directory) = .ok configuration ∧
        configuration.settings.parse.maxQueryLength = 1 := by
  intro tree here homeFile files
  have hfiles : files = [⟨"/home/p/.ods.toml"⟩, homeFile] := by decide +kernel
  have hfile : homeFile ∈ files := by simp [hfiles]
  have hglobal : here.isGlobal homeFile = true := by decide +kernel
  have hlast : files.getLast? = some homeFile := by simp [hfiles]
  have hvalue : (files.filter (· ≠ homeFile)).findSome? (here.defined? .maxQueryLength) =
      some 1 := by decide +kernel
  have hload : (here.load (.discover here.directory)).isOk = true := by decide +kernel
  obtain ⟨hiff, hrank⟩ := global_file_has_lowest_rank_iff hfile hglobal
  rcases hconfiguration : here.load (.discover here.directory) with e | configuration
  · rw [hconfiguration] at hload
    cases hload
  · exact ⟨⟨hfile, hglobal⟩, hiff, hlast, hvalue, configuration, rfl,
      hrank hlast configuration hconfiguration .maxQueryLength _ hvalue⟩

/-- The settings file of the home directory overrules one above the home directory. -/
theorem home_file_overrules_file_above :
    let tree : FileTree :=
      ⟨[([".ods.toml"], .file "[parse]\nmax_query_length = 1\n".toUTF8), (["home"], .directory),
        ([".ods.toml", "home"], .file "[parse]\nmax_query_length = 2\n".toUTF8)], ["home"]⟩
    let here : Surroundings := ⟨tree, some ⟨"/home"⟩, none⟩
    (here.discover here.directory).files = [⟨"/home/.ods.toml"⟩, ⟨"/.ods.toml"⟩] ∧
      here.isGlobal ⟨"/home/.ods.toml"⟩ = true ∧
      here.defined? .maxQueryLength ⟨"/.ods.toml"⟩ = some 1 ∧
      ∃ configuration, here.load (.discover here.directory) = .ok configuration ∧
        configuration.settings.parse.maxQueryLength = 2 := by
  intro tree here
  have hload : ((here.load (.discover here.directory)).map
      fun configuration => configuration.settings.parse.maxQueryLength).toOption = some 2 := by
    decide +kernel
  refine ⟨by decide +kernel, by decide +kernel, by decide +kernel, ?_⟩
  rcases hconfiguration : here.load (.discover here.directory) with e | configuration
  · rw [hconfiguration] at hload
    cases hload
  · rw [hconfiguration] at hload
    exact ⟨configuration, rfl, Option.some.inj hload⟩

end

end SearchQuery
