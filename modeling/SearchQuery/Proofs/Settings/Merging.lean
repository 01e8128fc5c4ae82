import SearchQuery.Proofs.Settings.Precedence

/-!
# Putting files together

The layers of files are put together from the lowest up, and each overwrites what it defines.  Seen
from above, every setting is searched for by itself: it has the value of the first file that defines
it, whatever that file and the others say about other settings (`Configuration.value_ofFiles`).  So
a file counts only for the settings that no file before it defines, and one that is not the first
and counts for none can be left out (`Configuration.ofFiles_append_cons`).
-/

namespace SearchQuery

/-- Settings are determined by the value of each of them. -/
lemma Settings.eq_of_value {settings settings' : Settings}
    (h : ∀ setting : Setting, setting.value settings = setting.value settings') :
    settings = settings' := by
  obtain ⟨⟨length⟩, ⟨format, color⟩⟩ := settings
  obtain ⟨⟨length'⟩, ⟨format', color'⟩⟩ := settings'
  have hlength : length = length' := h .maxQueryLength
  have hformat : format = format' := h .format
  have hcolor : color = color' := h .color
  rw [hlength, hformat, hcolor]

/-- An element that gives something only if one before it does can be left out of a search. -/
lemma findSome?_append_cons {α β : Type} {f : α → Option β} {x : α} {front rest : List α}
    (h : (f x).isSome = true → ∃ y ∈ front, (f y).isSome = true) :
    (front ++ x :: rest).findSome? f = (front ++ rest).findSome? f := by
  rw [List.findSome?_append, List.findSome?_append, List.findSome?_cons]
  rcases hfront : front.findSome? f with _ | b
  · -- Nothing in front gives anything, so this element does not either.
    have hnone : f x = none := by
      rw [← Option.not_isSome_iff_eq_none]
      intro hx
      obtain ⟨y, hy, hsome⟩ := h hx
      simp [List.findSome?_eq_none_iff.mp hfront y hy] at hsome
    rw [hnone]
  · rfl

namespace Setting

/-- The value that a file defines for the setting. -/
def definedBy? (setting : Setting) (file : LayerFile) : Option setting.Value :=
  setting.defined? file.layer

/-- The file defines the setting. -/
def IsDefinedBy (setting : Setting) (file : LayerFile) : Prop :=
  (setting.definedBy? file).isSome = true

end Setting

namespace Configuration

variable {first file : LayerFile} {files front rest : List LayerFile}

/-- A setting has the value of the first file that defines it, or its default value. -/
lemma value_ofFiles (setting : Setting) (files : List LayerFile) :
    setting.value (ofFiles files).settings =
      (files.findSome? setting.definedBy?).getD (setting.value {}) := by
  have hsearch : (files.map LayerFile.layer).findSome? setting.defined? =
      files.findSome? setting.definedBy? := List.findSome?_map ..
  rw [← hsearch]
  exact Setting.value_ofLayers

/-- A file that is not the first and defines nothing that no file before it defines can be left
out. -/
lemma ofFiles_append_cons
    (h : ∀ setting : Setting, setting.IsDefinedBy file →
      ∃ earlier ∈ first :: front, setting.IsDefinedBy earlier) :
    ofFiles (first :: front ++ file :: rest) = ofFiles (first :: front ++ rest) := by
  have hsettings : (ofFiles (first :: front ++ file :: rest)).settings =
      (ofFiles (first :: front ++ rest)).settings := by
    apply Settings.eq_of_value
    intro setting
    rw [value_ofFiles, value_ofFiles, findSome?_append_cons (h setting)]
  exact congrArg (Configuration.mk · (first.path.parent?)) hsettings

end Configuration

/-- Every setting has the value of the first file that defines it, and its default value if none
does; the root is the directory of the first file.  Hence a file that defines nothing changes
nothing anywhere but in front, and neither does one behind the first file that defines only what
files before it define. -/
theorem first_defining_file_wins (files : List LayerFile) :
    (∀ setting : Setting, setting.value (Configuration.ofFiles files).settings =
        (files.findSome? setting.definedBy?).getD (setting.value {})) ∧
      (Configuration.ofFiles files).root = files.head?.bind (fun file => file.path.parent?) ∧
      (∀ first front rest, files = first :: front ++ rest →
        ∀ blank : LayerFile, (∀ setting : Setting, ¬ setting.IsDefinedBy blank) →
          Configuration.ofFiles (first :: front ++ blank :: rest) =
            Configuration.ofFiles files) ∧
      ∀ first front file rest, files = first :: front ++ file :: rest →
        (∀ setting : Setting, setting.IsDefinedBy file →
          ∃ earlier ∈ first :: front, setting.IsDefinedBy earlier) →
          Configuration.ofFiles (first :: front ++ rest) = Configuration.ofFiles files := by
  refine ⟨fun setting => Configuration.value_ofFiles setting files, rfl, ?_, ?_⟩
  · rintro first front rest rfl blank hblank
    apply Configuration.ofFiles_append_cons
    intro setting hdefined
    exact absurd hdefined (hblank setting)
  · rintro first front file rest rfl hdefined
    exact (Configuration.ofFiles_append_cons hdefined).symm

/-- The file of a project defines the color and one above it the format and the color: a third file
that defines the color again can be left out, and an empty one can be put in. -/
theorem third_color_is_overruled :
    let project : LayerFile := ⟨⟨"/a/b/.ods.toml"⟩, { output := some { color := some false } }⟩
    let above : LayerFile :=
      ⟨⟨"/a/.ods.toml"⟩, { output := some { format := some .query, color := some true } }⟩
    let top : LayerFile := ⟨⟨"/.ods.toml"⟩, { output := some { color := some true } }⟩
    let blank : LayerFile := ⟨⟨"/home/.ods.toml"⟩, { parse := some {} }⟩
    (∀ setting : Setting, setting.IsDefinedBy top →
        ∃ earlier ∈ [project, above], setting.IsDefinedBy earlier) ∧
      (∀ setting : Setting, ¬ setting.IsDefinedBy blank) ∧
      Configuration.ofFiles [project, above, top] =
        ⟨⟨{}, { format := .query, color := false }⟩, some ⟨"/a/b"⟩⟩ ∧
      Configuration.ofFiles [project, above] = Configuration.ofFiles [project, above, top] ∧
      Configuration.ofFiles [project, above, blank, top] =
        Configuration.ofFiles [project, above, top] := by
  intro project above top blank
  obtain ⟨-, -, hinsert, hremove⟩ := first_defining_file_wins [project, above, top]
  have htop : ∀ setting : Setting, setting.IsDefinedBy top →
      ∃ earlier ∈ [project, above], setting.IsDefinedBy earlier := by
    intro setting hdefined
    cases setting with
    | maxQueryLength => cases hdefined
    | format => cases hdefined
    | color => exact ⟨project, List.mem_cons_self, rfl⟩
  have hblank : ∀ setting : Setting, ¬ setting.IsDefinedBy blank := by
    intro setting hdefined
    cases setting <;> cases hdefined
  refine ⟨htop, hblank, by decide, ?_, ?_⟩
  · exact hremove project [above] top [] rfl htop
  · exact hinsert project [above] [top] rfl blank hblank

end SearchQuery
