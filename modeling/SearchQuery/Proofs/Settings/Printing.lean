import SearchQuery.Proofs.Parser.Readers
import SearchQuery.Proofs.Settings.Files
import SearchQuery.Proofs.Toml.Lines
import SearchQuery.Proofs.Toml.Number
import SearchQuery.Proofs.Toml.Scanning

/-!
# Settings that are printed and read back

Settings are printed as a document that defines all of them (`ofText_toToml`), as long as the length
fits a machine word.  A settings file with a length that does not fit is refused, so what is printed
of the settings that files give reads back as these settings (`printed_settings_read_back`).
-/

namespace SearchQuery

open Toml (Value Entries Statement)

namespace Settings

variable {settings : Settings}

/-! ## What is printed -/

/-- The name of a value for color. -/
def colorText (color : Bool) : String :=
  if color then "true" else "false"

/-- The tokens of printed settings. -/
def printedTokens (settings : Settings) : List Toml.Token :=
  [.openBracket, .bare "parse", .closeBracket, .newline,
    .bare "max_query_length", .blank " ", .equals, .blank " ",
    .bare (toString settings.parse.maxQueryLength), .newline, .newline,
    .openBracket, .bare "output", .closeBracket, .newline,
    .bare "format", .blank " ", .equals, .blank " ",
    .quoted settings.output.format.name false, .newline,
    .bare "color", .blank " ", .equals, .blank " ", .bare (colorText settings.output.color),
    .newline]

/-- The characters of printed settings, line by line. -/
lemma toList_toToml (settings : Settings) :
    settings.toToml.toList =
      '[' :: ("parse".toList ++ ']' :: '\n' ::
        ("max_query_length".toList ++ ' ' :: '=' :: ' ' ::
          (Nat.toDigits 10 settings.parse.maxQueryLength ++ '\n' :: '\n' ::
            '[' :: ("output".toList ++ ']' :: '\n' ::
              ("format".toList ++ ' ' :: '=' :: ' ' ::
                '"' :: (settings.output.format.name.toList ++ '"' :: '\n' ::
                  ("color".toList ++ ' ' :: '=' :: ' ' ::
                    ((colorText settings.output.color).toList ++ '\n' :: [])))))))) := by
  unfold toToml
  simp only [colorText, Nat.toString_eq_ofList_toDigits, String.toList_append, String.toList_ofList,
    String.reduceToList, List.append_assoc, List.cons_append, List.nil_append]

/-- The digits of a number could be a bare key. -/
lemma isName_toDigits (n : Nat) : Toml.IsName (Nat.toDigits 10 n) := by
  refine ⟨Nat.toDigits_ne_nil, List.all_eq_true.mpr ?_⟩
  intro c hc
  simp [Toml.isKeyChar, Char.isAlphanum, Toml.isDigit_of_mem_toDigits hc]

/-- So could the name of a value for color. -/
lemma isName_colorText (color : Bool) : Toml.IsName (colorText color).toList := by
  cases color <;> exact ⟨by decide, by decide⟩

/-- So could the name of a format. -/
lemma isName_name (format : OutputFormat) : Toml.IsName format.name.toList := by
  cases format <;> exact ⟨by decide, by decide⟩

/-- Printed settings fall into their tokens. -/
lemma tokens?_toToml (settings : Settings) :
    Toml.tokens? settings.toToml = some settings.printedTokens := by
  have hdigits := isName_toDigits settings.parse.maxQueryLength
  have hname := isName_name settings.output.format
  have hcolor := isName_colorText settings.output.color
  have hparse : Toml.IsName "parse".toList := ⟨by decide, by decide⟩
  have hlength : Toml.IsName "max_query_length".toList := ⟨by decide, by decide⟩
  have houtput : Toml.IsName "output".toList := ⟨by decide, by decide⟩
  have hformat : Toml.IsName "format".toList := ⟨by decide, by decide⟩
  have hkey : Toml.IsName "color".toList := ⟨by decide, by decide⟩
  have hline : ∀ cs, Toml.EndsRun Toml.isBare ('\n' :: cs) := by
    rintro cs c ⟨⟩
    rfl
  have hquote : ∀ cs, Toml.EndsRun Toml.isLineBlank ('"' :: cs) := by
    rintro cs c ⟨⟩
    rfl
  have hstart : settings.toToml.toList.head? ≠ some '\uFEFF' := by
    rw [toList_toToml]
    simp
  rw [Toml.tokens?_eq_scan hstart, toList_toToml, Toml.scan_header hparse,
    Toml.scan_assignment hlength (hdigits.endsRun_isLineBlank _), Toml.scan_bare hdigits (hline _),
    Toml.scan_newline, Toml.scan_newline, Toml.scan_header houtput,
    Toml.scan_assignment hformat (hquote _), Toml.scan_quoted hname, Toml.scan_newline,
    Toml.scan_assignment hkey (hcolor.endsRun_isLineBlank _), Toml.scan_bare hcolor (hline _),
    Toml.scan_newline, Toml.scan]
  simp only [String.ofList_toList, ← Nat.toString_eq_ofList_toDigits]
  rfl

/-- The statements of printed settings. -/
def printedStatements (settings : Settings) : List Statement :=
  [.table [] "parse",
    .assign [] "max_query_length" (.integer (some (settings.parse.maxQueryLength : Int))),
    .table [] "output",
    .assign [] "format" (.string settings.output.format.name),
    .assign [] "color" (.boolean settings.output.color)]

/-- The tokens of printed settings are those of their statements. -/
lemma statements?_printedTokens (settings : Settings) :
    Toml.statements? [] settings.printedTokens = some settings.printedStatements := by
  have hcolor : Toml.scalar? (colorText settings.output.color) =
      some (.boolean settings.output.color) := by
    cases settings.output.color <;> rfl
  have hlength := Toml.scalar?_toString settings.parse.maxQueryLength
  unfold printedTokens
  rw [Toml.statements?_of_line rfl (Toml.readStatement_header (by decide)),
    Toml.statements?_of_line rfl (Toml.readStatement_assign_bare (by decide) hlength),
    Toml.statements?_of_line rfl (Toml.readStatement_header (by decide)),
    Toml.statements?_of_line rfl (Toml.readStatement_assign_quoted (by decide)),
    Toml.statements?_of_line rfl (Toml.readStatement_assign_bare (by decide) hcolor),
    Toml.statements?_of_trivia rfl]
  rfl

/-- The table of printed settings. -/
def printedEntries (settings : Settings) : Entries :=
  [("output", .table .header
      [("color", .boolean settings.output.color), ("format", .string settings.output.format.name)]),
    ("parse", .table .header
      [("max_query_length", .integer (some (settings.parse.maxQueryLength : Int)))])]

/-- Printed settings are a well-formed document. -/
lemma read?_toToml (settings : Settings) :
    Toml.read? settings.toToml = some settings.printedEntries := by
  have hperform : settings.printedStatements.foldlM Toml.Document.perform Toml.Document.empty =
      some ⟨settings.printedEntries, ["output"]⟩ := by
    have hsections : "output" < "parse" := by decide
    have hfields : "color" < "format" := by decide
    simp [printedStatements, printedEntries, Toml.Document.perform, Toml.Document.empty,
      Entries.alter, Entries.openTable, Entries.assign, Entries.find?, Entries.set, hsections,
      hfields]
  rw [Toml.read?, tokens?_toToml]
  simp [statements?_printedTokens, hperform]

/-- The layer that defines all settings. -/
def toLayer (settings : Settings) : Layer where
  root := none
  parse := some ⟨some settings.parse.maxQueryLength⟩
  output := some ⟨some settings.output.format, some settings.output.color⟩

/-- The layer that defines all settings overwrites all settings. -/
lemma ofLayers_toLayer (settings : Settings) :
    Settings.ofLayers [settings.toLayer] = settings := rfl

/-- Printed settings read as the layer that defines all of them. -/
lemma ofText_toToml (hfits : fitsUnsigned 64 settings.parse.maxQueryLength = true) :
    Layer.ofText settings.toToml = .ok settings.toLayer := by
  have hlength : (Value.integer (some (settings.parse.maxQueryLength : Int))).toLength =
      .ok settings.parse.maxQueryLength := by
    rw [Value.toLength, hfits]
    rfl
  have hformat : (Value.string settings.output.format.name).toFormat =
      .ok settings.output.format := by
    rw [Value.toFormat, Value.formatOfName, OutputFormat.ofName?_name]
  have hparse : ParseLayer.ofEntries
      [("max_query_length", .integer (some (settings.parse.maxQueryLength : Int)))] =
        .ok ⟨some settings.parse.maxQueryLength⟩ := by
    simp [ParseLayer.ofEntries, readEntries, ParseLayer.readField, ParseLayer.readLength, hlength]
  have houtput : OutputLayer.ofEntries
      [("color", .boolean settings.output.color),
        ("format", .string settings.output.format.name)] =
        .ok ⟨some settings.output.format, some settings.output.color⟩ := by
    simp [OutputLayer.ofEntries, readEntries, OutputLayer.readField, OutputLayer.readColor,
      OutputLayer.readFormat, Value.toBoolean, hformat]
    rfl
  have hlayer : Layer.ofEntries settings.printedEntries = .ok settings.toLayer := by
    simp [Layer.ofEntries, readEntries, printedEntries, Layer.readField, ParseLayer.ofValue,
      OutputLayer.ofValue, hparse, houtput, toLayer]
    rfl
  rw [Layer.ofText, readDocument, read?_toToml]
  simp only [hlayer]

end Settings

/-! ## What is read -/

section

variable {α β : Type} {P : α → Prop} {step : α → β → Except DecodeError α} {items : List β}
  {start result : α}

/-- Steps that keep a property keep it one after the other. -/
lemma foldlM_induction (hstart : P start)
    (hstep : ∀ a b, ∀ item ∈ items, P a → step a item = .ok b → P b)
    (h : items.foldlM step start = .ok result) : P result := by
  induction items generalizing start with
  | nil =>
    obtain rfl := Except.ok.inj h
    exact hstart
  | cons item items ih =>
    rw [List.foldlM_cons] at h
    obtain ⟨next, hfirst, hrest⟩ := bind_eq_ok_iff.mp h
    have hnext := hstep start next item List.mem_cons_self hstart hfirst
    exact ih hnext (fun a b other hother => hstep a b other (List.mem_cons_of_mem item hother))
      hrest

end

/-- The length that a layer defines fits a machine word, if it defines one. -/
def ParseLayer.Fits (layer : ParseLayer) : Prop :=
  ∀ n ∈ layer.maxQueryLength, fitsUnsigned 64 n = true

/-- The length that a layer defines fits a machine word, if it defines one. -/
def Layer.Fits (layer : Layer) : Prop :=
  ∀ parse ∈ layer.parse, parse.Fits

/-- A length that is read fits a machine word. -/
lemma fits_of_toLength {value : Value} {n : Nat} (h : value.toLength = .ok n) :
    fitsUnsigned 64 n = true := by
  unfold Value.toLength at h
  split at h
  · next n' =>
    split_ifs at h with hfits
    obtain rfl := Except.ok.inj h
    have hnonneg : 0 ≤ n' := by
      simp only [fitsUnsigned, Bool.and_eq_true, decide_eq_true_eq] at hfits
      exact hfits.1
    rwa [Int.toNat_of_nonneg hnonneg]
  · cases h

/-- Reading the length leaves a section that fits. -/
lemma ParseLayer.fits_of_readLength {value : Value} {layer result : ParseLayer}
    (h : readLength value layer = .ok result) : result.Fits := by
  obtain ⟨n, hlength, hresult⟩ := bind_eq_ok_iff.mp h
  obtain rfl := Except.ok.inj hresult
  rintro n' ⟨⟩
  exact fits_of_toLength hlength

/-- A section that is read fits, be it a table or an array. -/
lemma ParseLayer.fits_of_ofValue {value : Value} {result : ParseLayer}
    (h : ofValue value = .ok result) : result.Fits := by
  have hempty : (ParseLayer.mk none).Fits := by rintro n ⟨⟩
  unfold ofValue at h
  split at h
  · refine foldlM_induction hempty ?_ h
    rintro layer layer' ⟨key, value⟩ - - hfield
    dsimp only [readField] at hfield
    split_ifs at hfield
    exact fits_of_readLength hfield
  · cases h
  · refine foldlM_induction hempty ?_ h
    rintro layer layer' ⟨field, item⟩ hmem - hfield
    obtain rfl : field = readLength := List.mem_singleton.mp (List.of_mem_zip hmem).1
    exact fits_of_readLength hfield
  · cases h

/-- A layer that is read fits. -/
lemma Layer.fits_of_ofEntries {entries : Entries} {result : Layer}
    (h : ofEntries entries = .ok result) : result.Fits := by
  have hempty : (Layer.mk none none none).Fits := by rintro parse ⟨⟩
  refine foldlM_induction hempty ?_ h
  rintro layer layer' ⟨key, value⟩ - hlayer hfield
  dsimp only [readField] at hfield
  split_ifs at hfield
  · obtain ⟨root, -, hnext⟩ := bind_eq_ok_iff.mp hfield
    obtain rfl := Except.ok.inj hnext
    exact hlayer
  · obtain ⟨parse, hparse, hnext⟩ := bind_eq_ok_iff.mp hfield
    obtain rfl := Except.ok.inj hnext
    rintro parse' ⟨⟩
    exact ParseLayer.fits_of_ofValue hparse
  · obtain ⟨output, -, hnext⟩ := bind_eq_ok_iff.mp hfield
    obtain rfl := Except.ok.inj hnext
    exact hlayer

/-- A text that is read as a layer is read from a document. -/
lemma Layer.exists_ofEntries_of_read {path : Path} {text : String} {layer : Layer}
    (h : Layer.read path text = .ok layer) : ∃ entries, ofEntries entries = .ok layer := by
  unfold Layer.read Layer.ofText readDocument at h
  split at h
  · next hread =>
    obtain rfl := Except.ok.inj h
    split at hread
    · cases hread
    · next entries _ =>
      split at hread
      · next hentries =>
        obtain rfl := Except.ok.inj hread
        exact ⟨entries, hentries⟩
      · cases hread
  · cases h

/-- The length of settings on which layers that fit have been laid fits. -/
lemma Settings.fits_ofLayers {layers : List Layer} (h : ∀ layer ∈ layers, layer.Fits) :
    fitsUnsigned 64 (Settings.ofLayers layers).parse.maxQueryLength = true := by
  induction layers with
  | nil => decide
  | cons layer layers ih =>
    have hbelow := ih fun other hother => h other (List.mem_cons_of_mem layer hother)
    have hlayer := h layer List.mem_cons_self
    rw [Settings.ofLayers, List.foldr_cons, ← Settings.ofLayers]
    generalize Settings.ofLayers layers = below at hbelow ⊢
    rcases hparse : layer.parse with _ | parse
    · simpa [Layer.applyTo, hparse] using hbelow
    · rcases hlength : parse.maxQueryLength with _ | n
      · simpa [Layer.applyTo, hparse, ParseLayer.applyTo, hlength] using hbelow
      · simpa [Layer.applyTo, hparse, ParseLayer.applyTo, hlength] using
          hlayer parse hparse n hlength

/-! ## Printing and reading back -/

/-- Texts are read as the layers of files. -/
def readTexts (texts : List (Path × String)) : Except LoadError (List LayerFile) :=
  texts.mapM fun entry => (Layer.read entry.1 entry.2).map (LayerFile.mk entry.1)

/-- The layers of files that are read fit. -/
lemma fits_of_readTexts {texts : List (Path × String)} {files : List LayerFile}
    (h : readTexts texts = .ok files) : ∀ file ∈ files, file.layer.Fits := by
  induction texts generalizing files with
  | nil =>
    obtain rfl := Except.ok.inj h
    simp
  | cons entry texts ih =>
    obtain ⟨file, rest, hentry, hrest, rfl⟩ := mapM_cons_eq_ok_iff.mp h
    refine List.forall_mem_cons.mpr ⟨?_, ih hrest⟩
    rcases hlayer : Layer.read entry.1 entry.2 with e | layer
    · rw [hlayer] at hentry
      cases hentry
    · rw [hlayer] at hentry
      obtain rfl := Except.ok.inj hentry
      obtain ⟨entries, hentries⟩ := Layer.exists_ofEntries_of_read hlayer
      exact Layer.fits_of_ofEntries hentries

/-- The settings that files give, printed and read back as the only file, are the same settings;
the file that is printed defines all of them and does not call itself the root. -/
theorem printed_settings_read_back {texts : List (Path × String)} {files : List LayerFile}
    (hread : readTexts texts = .ok files) (path : Path) :
    ∃ layer, Layer.read path (Configuration.ofFiles files).settings.toToml = .ok layer ∧
      layer.root = none ∧
      (∃ length, layer.parse = some ⟨some length⟩) ∧
      (∃ format color, layer.output = some ⟨some format, some color⟩) ∧
      (Configuration.ofFiles [⟨path, layer⟩]).settings =
        (Configuration.ofFiles files).settings := by
  have hfits :
      fitsUnsigned 64 (Configuration.ofFiles files).settings.parse.maxQueryLength = true := by
    refine Settings.fits_ofLayers ?_
    intro layer hlayer
    obtain ⟨file, hfile, rfl⟩ := List.mem_map.mp hlayer
    exact fits_of_readTexts hread file hfile
  refine ⟨(Configuration.ofFiles files).settings.toLayer, ?_, rfl, ⟨_, rfl⟩, ⟨_, _, rfl⟩,
    Settings.ofLayers_toLayer _⟩
  rw [Layer.read, Settings.ofText_toToml hfits]

/-- What two files say together reads back from one. -/
theorem two_files_read_back :
    let texts : List (Path × String) :=
      [(⟨"/p/.ods.toml"⟩, "[parse]\nmax_query_length = 7\n"),
        (⟨"/.ods.toml"⟩, "[output]\ncolor = false\n")]
    let files : List LayerFile :=
      [⟨⟨"/p/.ods.toml"⟩, { parse := some ⟨some 7⟩ }⟩,
        ⟨⟨"/.ods.toml"⟩, { output := some ⟨none, some false⟩ }⟩]
    readTexts texts = .ok files ∧
      ∃ layer, Layer.read ⟨"all.toml"⟩ (Configuration.ofFiles files).settings.toToml = .ok layer ∧
        (Configuration.ofFiles [⟨⟨"all.toml"⟩, layer⟩]).settings = ⟨⟨7⟩, ⟨.tree, false⟩⟩ := by
  intro texts files
  have hread : readTexts texts = .ok files := by decide +kernel
  obtain ⟨layer, hlayer, -, -, -, hsettings⟩ := printed_settings_read_back hread ⟨"all.toml"⟩
  exact ⟨hread, layer, hlayer, hsettings⟩

end SearchQuery
