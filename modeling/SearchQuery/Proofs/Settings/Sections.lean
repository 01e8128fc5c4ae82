import SearchQuery.Proofs.Settings.Files

/-!
# Sections that are read on their own

A section of a settings file is read as a layer, which refuses keys that it does not know.  The
settings of a section can also be read from a document of their own, which passes over such keys.
Both readers take the entries in turn, and on a key that the section knows both read the same value:
what the second one then has is what the first one has, laid on the default settings (`ReadAlike`).
So they differ in the other keys alone, whose values are passed over as long as every number in them
can be read (`ReadAlike.readEntries_eq_ok_iff`).
-/

namespace SearchQuery

open Toml (Value Entries)

/-- A value is passed over exactly if every number in it can be read. -/
lemma Toml.Value.ignore_eq_ok_iff {value : Value} {u : Unit} :
    value.ignore = .ok u ↔ value.allScalars Value.isReadable = true := by
  rw [ignore]
  split_ifs with h <;> simp [h]

namespace Toml.Entries

/-- The entries of the given keys. -/
def only (keys : List String) (entries : Entries) : Entries :=
  entries.filter fun entry => entry.1 ∈ keys

/-- Every number in the values of other keys than those given can be read. -/
def OthersReadable (keys : List String) (entries : Entries) : Prop :=
  ∀ entry ∈ entries, entry.1 ∉ keys → entry.2.allScalars Value.isReadable = true

variable {keys : List String} {key : String} {value : Value} {entries : Entries}

/-- An entry of one of the keys is kept. -/
lemma only_cons_of_mem (h : key ∈ keys) :
    only keys ((key, value) :: entries) = (key, value) :: only keys entries :=
  List.filter_cons_of_pos (by simpa using h)

/-- An entry of another key is left out. -/
lemma only_cons_of_not_mem (h : key ∉ keys) :
    only keys ((key, value) :: entries) = only keys entries :=
  List.filter_cons_of_neg (by simpa using h)

/-- The value of one of the keys need not be readable. -/
lemma othersReadable_cons_of_mem (h : key ∈ keys) :
    OthersReadable keys ((key, value) :: entries) ↔ OthersReadable keys entries := by
  simp [OthersReadable, h]

/-- The value of another key must be readable. -/
lemma othersReadable_cons_of_not_mem (h : key ∉ keys) :
    OthersReadable keys ((key, value) :: entries) ↔
      value.allScalars Value.isReadable = true ∧ OthersReadable keys entries := by
  simp [OthersReadable, h]

end Toml.Entries

/-! ## Two readers of one section -/

/-- The readers of a section's fields as a layer and as settings: of a key that the section knows
they read the same value, and of other keys the first one refuses all and the second one passes
over all that can be read. -/
structure ReadAlike {L S : Type} (keys : List String)
    (readLayer : String → Value → L → Except DecodeError L)
    (readSettings : String → Value → S → Except DecodeError S) (onDefaults : L → S) : Prop where
  known : ∀ key ∈ keys, ∀ value layer,
    readSettings key value (onDefaults layer) = (readLayer key value layer).map onDefaults
  refused : ∀ key, key ∉ keys → ∀ value layer, (readLayer key value layer).isOk = false
  ignored : ∀ key, key ∉ keys → ∀ value settings,
    readSettings key value settings = value.ignore.map fun _ => settings

section

variable {L S : Type} {keys : List String} {entries : Entries} {layer : L} {settings : S}
  {readLayer : String → Value → L → Except DecodeError L}
  {readSettings : String → Value → S → Except DecodeError S} {onDefaults : L → S}

/-- Entries are read as settings if those of known keys are read as a layer and the others can be
passed over. -/
lemma ReadAlike.readEntries_eq_ok_iff (h : ReadAlike keys readLayer readSettings onDefaults)
    (entries : Entries) (layer : L) (settings : S) :
    readEntries readSettings entries (onDefaults layer) = .ok settings ↔
      Entries.OthersReadable keys entries ∧
        ∃ result, readEntries readLayer (Entries.only keys entries) layer = .ok result ∧
          settings = onDefaults result := by
  induction entries generalizing layer with
  | nil =>
    constructor
    · intro hread
      exact ⟨by simp [Entries.OthersReadable], layer, rfl, (Except.ok.inj hread).symm⟩
    · rintro ⟨-, result, hread, rfl⟩
      obtain rfl := Except.ok.inj hread
      rfl
  | cons entry entries ih =>
    obtain ⟨key, value⟩ := entry
    have hsettings : readEntries readSettings ((key, value) :: entries) (onDefaults layer) =
        (readSettings key value (onDefaults layer)).bind (readEntries readSettings entries) := rfl
    rw [hsettings]
    by_cases hkey : key ∈ keys
    · have hlayer : readEntries readLayer ((key, value) :: Entries.only keys entries) layer =
          (readLayer key value layer).bind (readEntries readLayer (Entries.only keys entries)) :=
        rfl
      rw [h.known key hkey, Entries.only_cons_of_mem hkey, Entries.othersReadable_cons_of_mem hkey,
        hlayer]
      rcases readLayer key value layer with e | next
      · exact iff_of_false (by rintro ⟨⟩) (by rintro ⟨-, -, ⟨⟩, -⟩)
      · exact ih next
    · rw [h.ignored key hkey, Entries.only_cons_of_not_mem hkey,
        Entries.othersReadable_cons_of_not_mem hkey, and_assoc]
      rcases hignore : value.ignore with e | u
      · refine iff_of_false (by rintro ⟨⟩) ?_
        rintro ⟨hreadable, -⟩
        rw [← Value.ignore_eq_ok_iff (u := ()), hignore] at hreadable
        cases hreadable
      · rw [Value.ignore_eq_ok_iff] at hignore
        rw [← ih layer, and_iff_right hignore]
        rfl

/-- Entries that are read as a layer are of keys that the section knows. -/
lemma ReadAlike.mem_keys (h : ReadAlike keys readLayer readSettings onDefaults) {result : L}
    (hread : readEntries readLayer entries layer = .ok result) :
    ∀ entry ∈ entries, entry.1 ∈ keys := by
  induction entries generalizing layer with
  | nil => simp
  | cons entry entries ih =>
    obtain ⟨key, value⟩ := entry
    have hlayer : readEntries readLayer ((key, value) :: entries) layer =
        (readLayer key value layer).bind (readEntries readLayer entries) := rfl
    rw [hlayer] at hread
    rcases hfield : readLayer key value layer with e | next
    · rw [hfield] at hread
      cases hread
    · rw [hfield] at hread
      have hkey : key ∈ keys := by
        by_contra hkey
        simpa [hfield, Except.isOk, Except.toBool] using h.refused key hkey value layer
      exact List.forall_mem_cons.mpr ⟨hkey, ih hread⟩

/-- Entries that are read as a layer are read as the settings of that layer. -/
lemma ReadAlike.readEntries_eq_ok (h : ReadAlike keys readLayer readSettings onDefaults)
    {result : L} (hread : readEntries readLayer entries layer = .ok result) :
    readEntries readSettings entries (onDefaults layer) = .ok (onDefaults result) := by
  have hkeys := h.mem_keys hread
  have honly : Entries.only keys entries = entries :=
    List.filter_eq_self.mpr (by simpa using hkeys)
  apply (h.readEntries_eq_ok_iff entries layer _).mpr
  refine ⟨?_, result, by rw [honly, hread], rfl⟩
  intro entry hentry hkey
  exact absurd (hkeys entry hentry) hkey

/-- A text is read if it is a document whose entries are. -/
lemma readDocument_eq_ok_iff {α : Type} {decode : Entries → Except DecodeError α} {text : String}
    {result : α} :
    readDocument decode text = .ok result ↔
      ∃ entries, Toml.read? text = some entries ∧ decode entries = .ok result := by
  unfold readDocument
  rcases Toml.read? text with _ | entries
  · simp
  · rcases hdecode : decode entries with e | result' <;> simp [hdecode]

end

/-! ## The sections of a settings file -/

/-- The settings of a section if it is all that files say. -/
def ParseLayer.onDefaults (layer : ParseLayer) : ParseSettings :=
  (Settings.ofLayers [{ parse := some layer }]).parse

/-- The settings of a section if it is all that files say. -/
def OutputLayer.onDefaults (layer : OutputLayer) : OutputSettings :=
  (Settings.ofLayers [{ output := some layer }]).output

/-- The section about query parsing is read alike. -/
lemma ParseLayer.readAlike :
    ReadAlike keys readField ParseSettings.readField onDefaults where
  known := by
    intro key hkey value layer
    obtain rfl := List.mem_singleton.mp hkey
    rw [ParseSettings.readField, readField, if_pos rfl, if_pos rfl, readLength]
    cases value.toLength <;> rfl
  refused := by
    intro key hkey value layer
    have hne : key ≠ "max_query_length" := by simpa [keys] using hkey
    rw [readField, if_neg hne]
    rfl
  ignored := by
    intro key hkey value settings
    have hne : key ≠ "max_query_length" := by simpa [keys] using hkey
    rw [ParseSettings.readField, if_neg hne]
    cases value.ignore <;> rfl

/-- The section about printing is read alike. -/
lemma OutputLayer.readAlike :
    ReadAlike keys readField OutputSettings.readField onDefaults where
  known := by
    intro key hkey value layer
    have hcases : key = "format" ∨ key = "color" := by simpa [keys] using hkey
    rcases hcases with rfl | rfl
    · rw [OutputSettings.readField, readField, if_pos rfl, if_pos rfl, readFormat]
      cases value.toFormat <;> rfl
    · have hne : "color" ≠ "format" := by decide
      rw [OutputSettings.readField, readField, if_neg hne, if_neg hne, if_pos rfl, if_pos rfl,
        readColor]
      cases value.toBoolean <;> rfl
  refused := by
    intro key hkey value layer
    have hne : key ≠ "format" ∧ key ≠ "color" := by simpa [keys] using hkey
    rw [readField, if_neg hne.1, if_neg hne.2]
    rfl
  ignored := by
    intro key hkey value settings
    have hne : key ≠ "format" ∧ key ≠ "color" := by simpa [keys] using hkey
    rw [OutputSettings.readField, if_neg hne.1, if_neg hne.2]
    cases value.ignore <;> rfl

/-- The settings of a section are read from a text exactly if every number under keys that the
section does not know can be read and the other entries are accepted as the section of a settings
file; then they are what this section gives on top of the defaults.  So a table that is accepted as
a section is read as the settings that it gives there. -/
theorem sections_are_read_alike :
    (∀ text settings, ParseSettings.ofText text = .ok settings ↔
        ∃ entries, Toml.read? text = some entries ∧
          Entries.OthersReadable ParseLayer.keys entries ∧
          ∃ layer, ParseLayer.ofEntries (Entries.only ParseLayer.keys entries) = .ok layer ∧
            settings = layer.onDefaults) ∧
      (∀ text settings, OutputSettings.ofText text = .ok settings ↔
        ∃ entries, Toml.read? text = some entries ∧
          Entries.OthersReadable OutputLayer.keys entries ∧
          ∃ layer, OutputLayer.ofEntries (Entries.only OutputLayer.keys entries) = .ok layer ∧
            settings = layer.onDefaults) ∧
      (∀ origin entries layer, ParseLayer.ofValue (.table origin entries) = .ok layer →
        ParseSettings.ofEntries entries = .ok layer.onDefaults) ∧
      ∀ origin entries layer, OutputLayer.ofValue (.table origin entries) = .ok layer →
        OutputSettings.ofEntries entries = .ok layer.onDefaults := by
  refine ⟨?_, ?_, ?_, ?_⟩
  · intro text settings
    apply readDocument_eq_ok_iff.trans
    exact exists_congr fun entries => and_congr_right fun _ =>
      ParseLayer.readAlike.readEntries_eq_ok_iff entries {} settings
  · intro text settings
    apply readDocument_eq_ok_iff.trans
    exact exists_congr fun entries => and_congr_right fun _ =>
      OutputLayer.readAlike.readEntries_eq_ok_iff entries {} settings
  · intro origin entries layer haccepted
    exact ParseLayer.readAlike.readEntries_eq_ok haccepted
  · intro origin entries layer haccepted
    exact OutputLayer.readAlike.readEntries_eq_ok haccepted

/-- A table with a color is accepted as a section about printing, and the settings read from it
have that color and the default format. -/
theorem color_section_is_read_alike :
    OutputLayer.ofValue (.table .header [("color", .boolean false)]) =
        .ok { color := some false } ∧
      OutputSettings.ofEntries [("color", .boolean false)] =
        .ok { format := .tree, color := false } := by
  obtain ⟨-, -, -, houtput⟩ := sections_are_read_alike
  have haccepted : OutputLayer.ofValue (.table .header [("color", .boolean false)]) =
      .ok { color := some false } := by decide
  exact ⟨haccepted, houtput .header _ _ haccepted⟩

/-- A document with one key that the section about query parsing does not know is accepted as that
section without the key, but not read as its settings, if the value is a float that is too large. -/
theorem large_float_is_not_passed_over :
    (Toml.read? "x = 1e400\n").map (fun entries =>
        ParseLayer.ofEntries (Entries.only ParseLayer.keys entries)) = some (.ok {}) ∧
      ParseSettings.ofText "x = 1e400\n" = .error none := by
  constructor <;> decide +kernel

end SearchQuery
