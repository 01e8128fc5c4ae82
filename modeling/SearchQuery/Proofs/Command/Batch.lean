import Mathlib.Data.List.Forall2
import SearchQuery.Command.Run
import SearchQuery.Proofs.Expr.Limits
import SearchQuery.Proofs.RoundTrip.ReadBack
import SearchQuery.Proofs.Settings.Files

/-!
# Queries in a batch

Queries that are given together are handled one by one: the expressions of those that are accepted
are printed in their order, each under its query, the others are reported in theirs, and the command
fails if there are any of these (`PrintsInOrder`).  So what is printed depends on the accepted
queries alone.  The one exception is an outline with more levels than a line can be indented for,
where the printing breaks off (`printsInOrder_iff`).  As JSON, the accepted queries are printed all
together or not at all (`output_json`).
-/

namespace SearchQuery

/-! ## The lines of an expression -/

namespace Expr

/-- The lines of an expression in a text format; an outline ends its last line itself. -/
def lines (e : Expr) : OutputFormat → String
  | .tree => e.tree
  | .compact => e.compact ++ "\n"
  | .query => e.query ++ "\n"
  | .json => ""

variable {e : Expr} {format : OutputFormat} {text : String}

/-- In a text format every expression can be written, except as an outline of too many levels. -/
lemma exists_render?_iff (hformat : format ≠ .json) :
    (∃ text, e.render? format = some text) ↔ (format = .tree → e.depth ≤ outlineDepth) := by
  cases format with
  | tree => simp [render?, tree?_eq_some_iff]
  | compact => simp [render?]
  | query => simp [render?]
  | json => exact absurd rfl hformat

/-- What is printed of an expression and the end of a line are its lines. -/
lemma lines_of_render? (h : e.render? format = some text) : text ++ "\n" = e.lines format := by
  cases format with
  | tree =>
    obtain ⟨outline, houtline, rfl⟩ := Option.map_eq_some_iff.mp h
    obtain ⟨-, rfl⟩ := tree?_eq_some_iff.mp houtline
    exact trimWhiteSpaceEnd_tree e
  | compact => rw [← Option.some.inj h, lines]
  | query => rw [← Option.some.inj h, lines]
  | json => cases h

end Expr

namespace CommandContext

variable {context : CommandContext} {query : String} {queries queries' : List String}
  {option : SearchOption} {options : List SearchOption} {several : Bool} {chosen : OutputFormat}

/-! ## Accepted and refused queries -/

/-- Whether a query is accepted. -/
def accepts (context : CommandContext) (query : String) : Bool :=
  (context.readQuery query).isOk

/-- An option is read from its query. -/
lemma readQuery_eq_ok_iff :
    context.readQuery query = .ok option ↔
      context.settings.parse.exceedsLimit query = false ∧ option.text = query ∧
        parseQuery query = .ok option.expression := by
  unfold readQuery SearchOption.ofText
  obtain ⟨text, expression⟩ := option
  cases context.settings.parse.exceedsLimit query with
  | true => simp
  | false => cases parseQuery query <;> simp [eq_comm]

/-- The option of an accepted query is among the options. -/
lemma accepted_cons_of_ok (h : context.readQuery query = .ok option) :
    context.accepted (query :: queries) = option :: context.accepted queries := by
  simp [accepted, h, Except.toOption]

/-- A refused query has no option. -/
lemma accepted_cons_of_error {diagnostic : String}
    (h : context.readQuery query = .error diagnostic) :
    context.accepted (query :: queries) = context.accepted queries := by
  simp [accepted, h, Except.toOption]

/-- A query with an option is accepted. -/
lemma accepts_of_readQuery (h : context.readQuery query = .ok option) :
    context.accepts query = true := by
  rw [accepts, h]
  rfl

/-- An accepted query counts as one. -/
lemma filter_accepts_cons_of_ok (h : context.readQuery query = .ok option) :
    (query :: queries).filter context.accepts = query :: queries.filter context.accepts := by
  rw [List.filter_cons_of_pos (accepts_of_readQuery h)]

/-- A refused query does not. -/
lemma filter_accepts_cons_of_error {diagnostic : String}
    (h : context.readQuery query = .error diagnostic) :
    (query :: queries).filter context.accepts = queries.filter context.accepts := by
  simp [accepts, h, Except.isOk, Except.toBool]

/-- The options depend on the accepted queries alone. -/
lemma accepted_filter (context : CommandContext) (queries : List String) :
    context.accepted (queries.filter context.accepts) = context.accepted queries := by
  induction queries with
  | nil => rfl
  | cons query queries ih =>
    rcases h : context.readQuery query with diagnostic | option
    · rw [filter_accepts_cons_of_error h, accepted_cons_of_error h, ih]
    · rw [filter_accepts_cons_of_ok h, accepted_cons_of_ok h, accepted_cons_of_ok h, ih]

/-- The options of the accepted queries have these as their texts. -/
lemma map_text_accepted (context : CommandContext) (queries : List String) :
    (context.accepted queries).map SearchOption.text = queries.filter context.accepts := by
  induction queries with
  | nil => rfl
  | cons query queries ih =>
    rcases h : context.readQuery query with diagnostic | option
    · rw [accepted_cons_of_error h, filter_accepts_cons_of_error h, ih]
    · rw [accepted_cons_of_ok h, filter_accepts_cons_of_ok h, List.map_cons, ih,
        (readQuery_eq_ok_iff.mp h).2.1]

/-- There are fewer options than queries if a query is refused. -/
lemma length_accepted_lt_iff :
    (context.accepted queries).length < queries.length ↔
      ∃ query ∈ queries, context.accepts query = false := by
  rw [← List.length_map SearchOption.text, map_text_accepted, Nat.lt_iff_le_and_ne, Ne,
    List.length_filter_eq_length_iff]
  simp [List.length_filter_le]

/-! ## Printing -/

/-- What is printed of an option: its heading and its lines. -/
def entry (context : CommandContext) (several : Bool) (chosen : OutputFormat)
    (option : SearchOption) : String :=
  context.heading several option ++ option.expression.lines chosen

/-- Options that can all be written are printed in turn. -/
lemma printTexts_of_forall
    (h : ∀ option ∈ options, ∃ text, option.expression.render? chosen = some text) :
    context.printTexts several chosen options =
      (String.join (options.map (context.entry several chosen)), true) := by
  induction options with
  | nil => rfl
  | cons option options ih =>
    obtain ⟨text, htext⟩ := h option List.mem_cons_self
    have hrest := ih fun other hother => h other (List.mem_cons_of_mem option hother)
    rw [printTexts, htext]
    dsimp only
    rw [hrest, List.map_cons, String.join_cons, entry, ← Expr.lines_of_render? htext,
      ← String.append_assoc]

/-- The printing breaks off below the heading of the first option that cannot be written. -/
lemma printTexts_append {front after : List SearchOption}
    (hfront : ∀ option ∈ front, ∃ text, option.expression.render? chosen = some text)
    (hnone : option.expression.render? chosen = none) :
    context.printTexts several chosen (front ++ option :: after) =
      (String.join (front.map (context.entry several chosen)) ++ context.heading several option,
        false) := by
  induction front with
  | nil => simp [printTexts, hnone]
  | cons first front ih =>
    obtain ⟨text, htext⟩ := hfront first List.mem_cons_self
    have hrest := ih fun other hother => hfront other (List.mem_cons_of_mem first hother)
    rw [List.cons_append, printTexts, htext]
    dsimp only
    rw [hrest, List.map_cons, String.join_cons, entry, ← Expr.lines_of_render? htext]
    simp only [String.append_assoc]

/-- Of options that cannot all be written, there is a first one. -/
lemma exists_first_unwritten
    (h : ¬ ∀ option ∈ options, ∃ text, option.expression.render? chosen = some text) :
    ∃ front option after, options = front ++ option :: after ∧
      (∀ other ∈ front, ∃ text, other.expression.render? chosen = some text) ∧
      option.expression.render? chosen = none := by
  have hfind : options.find? (fun option => (option.expression.render? chosen).isNone) ≠ none := by
    intro hnone
    refine h fun option hoption => ?_
    have hwritten := List.find?_eq_none.mp hnone option hoption
    exact Option.isSome_iff_exists.mp (by simpa [Option.isSome_iff_ne_none] using hwritten)
  obtain ⟨option, hoption⟩ := Option.ne_none_iff_exists'.mp hfind
  obtain ⟨hnone, front, after, hsplit, hfront⟩ := List.find?_eq_some_iff_append.mp hoption
  refine ⟨front, option, after, hsplit, ?_, Option.isNone_iff_eq_none.mp hnone⟩
  intro other hother
  exact Option.isSome_iff_exists.mp (by simpa using hfront other hother)

end CommandContext

/-! ## The report on a batch -/

/-- A report on queries, of which there are several, goes through them in order: every accepted one
is printed with its expression, what is said about the others stands in the diagnostics, and the
command fails if there are others. -/
structure PrintsInOrder (context : CommandContext) (chosen : OutputFormat) (queries : List String)
    (report : Report) : Prop where
  output : report.output = String.join ((context.accepted queries).map fun option =>
    context.style.paint .header option.text ++ "\n" ++ option.expression.lines chosen)
  diagnostics : report.diagnostics = String.join (queries.map context.refusal)
  exitCode : report.ending.exitCode =
    if ∃ query ∈ queries, context.accepts query = false then 1 else 0

/-- A report on queries is an array of the options of those that are accepted, in order. -/
structure PrintsArray (context : CommandContext) (queries : List String) (report : Report) :
    Prop where
  output : ∃ values,
    List.Forall₂ (fun option value => SearchOption.toJson option = .ok value)
      (context.accepted queries) values ∧
    report.output = (Json.array values).pretty ++ "\n"
  diagnostics : report.diagnostics = String.join (queries.map context.refusal)
  exitCode : report.ending.exitCode =
    if ∃ query ∈ queries, context.accepts query = false then 1 else 0

section

variable {context : CommandContext} {queries queries' : List String}
  {format : Option OutputFormat} {chosen : OutputFormat}

/-- In a text format, a command prints the options in turn. -/
lemma parseCommand_text (hchosen : format.getD context.settings.output.format = chosen)
    (htext : chosen ≠ .json) :
    parseCommand context queries format =
      context.report
        (if (context.printTexts (1 < queries.length) chosen (context.accepted queries)).2 then
          if (context.accepted queries).length < queries.length then .failure else .success
        else .abort)
        (context.printTexts (1 < queries.length) chosen (context.accepted queries)).1
        (String.join (queries.map context.refusal)) := by
  unfold parseCommand
  rw [hchosen]
  cases chosen with
  | json => exact absurd rfl htext
  | tree | compact | query => rfl

/-- A command that goes through all queries fails if there are refused ones. -/
lemma exitCode_of_refused (context : CommandContext) (queries : List String) :
    (if (context.accepted queries).length < queries.length then Ending.failure
      else .success).exitCode =
      if ∃ query ∈ queries, context.accepts query = false then 1 else 0 := by
  simp only [CommandContext.length_accepted_lt_iff]
  split <;> rfl

/-- Queries whose expressions can all be written are gone through in order. -/
lemma printsInOrder_parseCommand
    (hchosen : format.getD context.settings.output.format = chosen) (htext : chosen ≠ .json)
    (hseveral : 1 < queries.length)
    (hwritten : ∀ option ∈ context.accepted queries,
      ∃ text, option.expression.render? chosen = some text) :
    PrintsInOrder context chosen queries (parseCommand context queries format) := by
  rw [parseCommand_text hchosen htext, CommandContext.printTexts_of_forall hwritten]
  refine ⟨?_, rfl, exitCode_of_refused context queries⟩
  have hentry : context.entry (decide (1 < queries.length)) chosen = fun option =>
      context.style.paint .header option.text ++ "\n" ++ option.expression.lines chosen := by
    funext option
    rw [CommandContext.entry, CommandContext.heading, decide_eq_true hseveral, if_pos rfl]
  rw [CommandContext.report, hentry]

/-- Queries whose expressions cannot all be written break the printing off. -/
lemma ending_parseCommand_of_unwritten
    (hchosen : format.getD context.settings.output.format = chosen) (htext : chosen ≠ .json)
    (h : ¬ ∀ option ∈ context.accepted queries,
      ∃ text, option.expression.render? chosen = some text) :
    (parseCommand context queries format).ending = .abort := by
  obtain ⟨front, option, after, hsplit, hfront, hnone⟩ := CommandContext.exists_first_unwritten h
  rw [parseCommand_text hchosen htext, hsplit, CommandContext.printTexts_append hfront hnone]
  rfl

/-- An accepted tree of too many levels is what breaks the printing off. -/
lemma forall_exists_render?_iff (htext : chosen ≠ .json) :
    (∀ option ∈ context.accepted queries, ∃ text, option.expression.render? chosen = some text) ↔
      (chosen = .tree →
        ∀ option ∈ context.accepted queries, option.expression.depth ≤ Expr.outlineDepth) := by
  simp only [Expr.exists_render?_iff htext]
  exact ⟨fun h htree option hoption => h option hoption htree,
    fun h option hoption htree => h htree option hoption⟩

/-- In a text format the queries are gone through in order exactly if there is no outline of too
many levels among the expressions. -/
lemma printsInOrder_iff (hchosen : format.getD context.settings.output.format = chosen)
    (htext : chosen ≠ .json) (hseveral : 1 < queries.length) :
    PrintsInOrder context chosen queries (parseCommand context queries format) ↔
      (chosen = .tree →
        ∀ option ∈ context.accepted queries, option.expression.depth ≤ Expr.outlineDepth) := by
  rw [← forall_exists_render?_iff htext]
  refine ⟨fun hprints => ?_, printsInOrder_parseCommand hchosen htext hseveral⟩
  by_contra hunwritten
  have hcode := hprints.exitCode
  rw [ending_parseCommand_of_unwritten hchosen htext hunwritten] at hcode
  split at hcode <;> cases hcode

/-- What is printed depends on the accepted queries, and on whether there are several queries. -/
lemma output_parseCommand_congr (haccepted : context.accepted queries' = context.accepted queries)
    (hseveral : 1 < queries'.length ↔ 1 < queries.length) :
    (parseCommand context queries' format).output =
      (parseCommand context queries format).output := by
  by_cases htext : format.getD context.settings.output.format = .json
  · unfold parseCommand
    rw [htext, haccepted]
    dsimp only
    cases (context.accepted queries).mapM SearchOption.toJson <;> rfl
  · rw [parseCommand_text rfl htext, parseCommand_text rfl htext, haccepted]
    simp only [hseveral]
    rfl

/-- As JSON, options that are not too deep are printed as an array. -/
lemma printsArray_parseCommand (hchosen : format.getD context.settings.output.format = .json)
    (hdepth : ∀ option ∈ context.accepted queries, option.expression.depth ≤ serializeDepth) :
    PrintsArray context queries (parseCommand context queries format) := by
  obtain ⟨values, hvalues⟩ := exists_mapM_eq_ok fun option hoption =>
    (SearchOption.toJson_eq_ok_iff option).mpr (hdepth option hoption)
  have hreport : parseCommand context queries format =
      context.report
        (if (context.accepted queries).length < queries.length then .failure else .success)
        ((Json.array values).pretty ++ "\n") (String.join (queries.map context.refusal)) := by
    unfold parseCommand
    rw [hchosen]
    dsimp only
    rw [hvalues]
  rw [hreport]
  exact ⟨⟨values, forall₂_of_mapM hvalues, rfl⟩, rfl, exitCode_of_refused context queries⟩

/-- As JSON, nothing is printed if an option is too deep. -/
lemma parseCommand_of_tooDeep (hchosen : format.getD context.settings.output.format = .json)
    (hdeep : ∃ option ∈ context.accepted queries, serializeDepth < option.expression.depth) :
    (parseCommand context queries format).output = "" ∧
      (parseCommand context queries format).ending = .failure := by
  obtain ⟨option, hoption, hdeep⟩ := hdeep
  have hnone : ¬ ∃ value, option.toJson = .ok value := fun hvalue =>
    absurd ((SearchOption.toJson_eq_ok_iff option).mp hvalue) (Nat.not_le.mpr hdeep)
  rcases htoJson : option.toJson with e | value
  · obtain ⟨e', he'⟩ := exists_mapM_eq_error hoption htoJson
    unfold parseCommand
    rw [hchosen]
    dsimp only
    rw [he']
    exact ⟨rfl, rfl⟩
  · exact absurd ⟨value, htoJson⟩ hnone

/-- Of several queries, in a text format the accepted ones are printed in order, the refused ones
are reported in order, and the command fails if there are any of these, exactly if no accepted
expression is to be written as an outline of too many levels.  In every format what is printed
depends on the accepted queries and their order alone.  As JSON, it is the array of the options of
the accepted queries, or nothing, with a failure, if one of them is too deep. -/
theorem batch_prints_in_order_iff
    (hchosen : format.getD context.settings.output.format = chosen)
    (hseveral : 1 < queries.length) :
    (chosen ≠ .json →
      (PrintsInOrder context chosen queries (parseCommand context queries format) ↔
        (chosen = .tree →
          ∀ option ∈ context.accepted queries, option.expression.depth ≤ Expr.outlineDepth))) ∧
    (∀ queries', 1 < queries'.length →
      queries'.filter context.accepts = queries.filter context.accepts →
      (parseCommand context queries' format).output =
        (parseCommand context queries format).output) ∧
    (chosen = .json →
      ((∀ option ∈ context.accepted queries, option.expression.depth ≤ serializeDepth) →
        PrintsArray context queries (parseCommand context queries format)) ∧
      ((∃ option ∈ context.accepted queries, serializeDepth < option.expression.depth) →
        (parseCommand context queries format).output = "" ∧
          (parseCommand context queries format).ending.exitCode = 1)) := by
  refine ⟨fun htext => printsInOrder_iff hchosen htext hseveral, ?_, ?_⟩
  · intro queries' hseveral' hfilter
    have haccepted : context.accepted queries' = context.accepted queries := by
      rw [← context.accepted_filter queries', hfilter, context.accepted_filter queries]
    exact output_parseCommand_congr haccepted (iff_of_true hseveral' hseveral)
  · rintro rfl
    refine ⟨printsArray_parseCommand hchosen, fun hdeep => ?_⟩
    obtain ⟨houtput, hending⟩ := parseCommand_of_tooDeep hchosen hdeep
    exact ⟨houtput, congrArg Ending.exitCode hending⟩

end

/-! ## Words and runs of words -/

/-- A single word is read as a term. -/
lemma parseQuery_word (query : String) (h : tokenize query = .ok [⟨.word, query, 0⟩]) :
    parseQuery query = .ok (.term query) :=
  parseQuery_eq_ok_iff.mpr ⟨_, h,
    parse_eq_ok_iff_derives.mpr (.single (.first (.ungrouped (.literal (.word rfl)))))⟩

/-- The command line without color in an empty root directory, with no limit on queries. -/
def CommandContext.unlimited : CommandContext where
  here := ⟨.seenFrom [], none, none⟩
  source := .discover ⟨"/"⟩
  settings := { parse := ⟨0⟩ }
  style := ⟨false⟩

namespace CommandContext

/-- Without a limit, a query is accepted if it is well formed. -/
lemma readQuery_unlimited {query : String} {e : Expr} (h : parseQuery query = .ok e) :
    unlimited.readQuery query = .ok ⟨query, e⟩ :=
  readQuery_eq_ok_iff.mpr ⟨rfl, rfl, h⟩

/-- Without a limit, a query is refused if it is not well formed. -/
lemma readQuery_unlimited_of_error {query : String} {e : QueryError}
    (h : parseQuery query = .error e) :
    unlimited.readQuery query = .error (unlimited.errorLine e.display) := by
  have hlimit : unlimited.settings.parse.exceedsLimit query = false := rfl
  rw [readQuery, hlimit, SearchOption.ofText, h]
  rfl

end CommandContext

/-- Two words are printed around a character that is refused. -/
theorem words_print_around_refused_query :
    PrintsInOrder .unlimited .tree ["tea", "&", "milk"]
        (parseCommand .unlimited ["tea", "&", "milk"] none) ∧
      (parseCommand .unlimited ["tea", "&", "milk"] none).output =
        "tea\n" ++ (Expr.term "tea").tree ++ ("milk\n" ++ (Expr.term "milk").tree) := by
  have htea : parseQuery "tea" = .ok (.term "tea") := parseQuery_word "tea" (by decide)
  have hmilk : parseQuery "milk" = .ok (.term "milk") := parseQuery_word "milk" (by decide)
  obtain ⟨error, hand⟩ : ∃ error, parseQuery "&" = .error error :=
    ⟨⟨.tokenizer (.forbiddenCharacter '&' .expression 0), "&"⟩, by
      have htokens : tokenize "&" = .error (.forbiddenCharacter '&' .expression 0) := by decide
      rw [parseQuery, htokens]⟩
  have haccepted : CommandContext.unlimited.accepted ["tea", "&", "milk"] =
      [⟨"tea", .term "tea"⟩, ⟨"milk", .term "milk"⟩] := by
    rw [CommandContext.accepted_cons_of_ok (CommandContext.readQuery_unlimited htea),
      CommandContext.accepted_cons_of_error (CommandContext.readQuery_unlimited_of_error hand),
      CommandContext.accepted_cons_of_ok (CommandContext.readQuery_unlimited hmilk)]
    rfl
  have hdepth : ∀ option ∈ CommandContext.unlimited.accepted ["tea", "&", "milk"],
      option.expression.depth ≤ Expr.outlineDepth := by
    simp [haccepted, Expr.depth_eq_height, Expr.height, Expr.outlineDepth]
  have hprints : PrintsInOrder .unlimited .tree ["tea", "&", "milk"]
      (parseCommand .unlimited ["tea", "&", "milk"] none) :=
    ((@batch_prints_in_order_iff .unlimited ["tea", "&", "milk"] none .tree rfl (by decide)).1
      (by decide)).mpr fun _ => hdepth
  refine ⟨hprints, ?_⟩
  rw [hprints.output, haccepted, List.map_cons, List.map_cons, List.map_nil, String.join_cons,
    String.join_cons, String.join_nil, String.append_empty]
  rfl

/-- A run of 32769 words has too many levels for an outline. -/
lemma exists_readQuery_wordRun :
    ∃ option, CommandContext.unlimited.readQuery (wordRun 32768) = .ok option ∧
      Expr.outlineDepth < option.expression.depth := by
  obtain ⟨e, hread, hlevels⟩ := exists_parseQuery_wordRun_deep 32768
  exact ⟨_, CommandContext.readQuery_unlimited hread, hlevels⟩

/-- Queries that begin with such a run break the printing of outlines off. -/
lemma ending_parseCommand_wordRun (queries : List String) :
    (parseCommand .unlimited (wordRun 32768 :: queries) (some .tree)).ending = .abort := by
  obtain ⟨option, hrun, hdeep⟩ := exists_readQuery_wordRun
  refine ending_parseCommand_of_unwritten rfl (by decide) fun hwritten => ?_
  rw [forall_exists_render?_iff (by decide), CommandContext.accepted_cons_of_ok hrun] at hwritten
  exact absurd (hwritten rfl option List.mem_cons_self) (Nat.not_le.mpr hdeep)

/-- A run of 32769 words and a word after it are accepted, but are not printed as outlines. -/
theorem long_word_run_breaks_off_batch :
    (∀ query ∈ [wordRun 32768, "a"], CommandContext.unlimited.accepts query = true) ∧
      (parseCommand .unlimited [wordRun 32768, "a"] (some .tree)).ending = .abort ∧
      ¬ PrintsInOrder .unlimited .tree [wordRun 32768, "a"]
        (parseCommand .unlimited [wordRun 32768, "a"] (some .tree)) := by
  obtain ⟨option, hrun, -⟩ := exists_readQuery_wordRun
  have ha := CommandContext.readQuery_unlimited (parseQuery_word "a" (by decide))
  have hending := ending_parseCommand_wordRun ["a"]
  refine ⟨?_, hending, fun hprints => ?_⟩
  · intro query hquery
    obtain rfl | rfl : query = wordRun 32768 ∨ query = "a" := by simpa using hquery
    · exact CommandContext.accepts_of_readQuery hrun
    · exact CommandContext.accepts_of_readQuery ha
  · have hcode := hprints.exitCode
    rw [hending] at hcode
    split at hcode <;> cases hcode

end SearchQuery
