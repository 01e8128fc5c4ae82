import SearchQuery.Proofs.Command.Batch
import SearchQuery.Proofs.Query.Diagnostics

/-!
# Agreement of the commands

Three commands judge queries, each in its own way: one prints expressions, one prints tokens and one
prints a word about every query.  What all of them say is determined by one verdict on the query
(`Verdict`), so they agree on every query (`CommandsAgree`) and, with it, on whether they fail.
They differ only where an expression is well formed but too deep for the form it is to be printed
in (`commands_agree`).
-/

namespace SearchQuery

/-- What is to be said about a query. -/
inductive Verdict where
  /-- The query is longer than allowed. -/
  | tooLong
  /-- The query cannot be split into tokens. -/
  | unreadable (error : LexError)
  /-- The tokens do not form an expression. -/
  | malformed (error : ParseError)
  | wellFormed (e : Expr)

namespace Verdict

/-- The key of the fault, if there is one. -/
def fault? : Verdict → Option String
  | tooLong => some "QUERY_TOO_LONG"
  | unreadable _ => some "TOKENIZER_EXCEPTION"
  | malformed error => some error.key
  | wellFormed _ => none

/-- Whether the query can be split into tokens; they need not form an expression. -/
def hasTokens : Verdict → Bool
  | tooLong | unreadable _ => false
  | malformed _ | wellFormed _ => true

end Verdict

namespace CommandContext

/-- The diagnostic that goes with a verdict. -/
def diagnostic (context : CommandContext) (query : String) : Verdict → String
  | .tooLong => context.tooLong query
  | .unreadable error => context.errorLine (QueryError.mk (.tokenizer error) query).display
  | .malformed error => context.errorLine (QueryError.mk error query).display
  | .wellFormed _ => ""

/-- The option of a query, if the verdict is that there is one. -/
def optionOf (context : CommandContext) (query : String) : Verdict → Except String SearchOption
  | .wellFormed e => .ok ⟨query, e⟩
  | verdict => .error (context.diagnostic query verdict)

/-- How a verdict comes about: the length is looked at first, then the characters and then the
tokens. -/
inductive Judged (context : CommandContext) (query : String) : Verdict → Prop
  | tooLong (hlength : context.settings.parse.exceedsLimit query = true) :
      Judged context query .tooLong
  | unreadable {error : LexError} (hlength : context.settings.parse.exceedsLimit query = false)
      (htokens : tokenize query = .error error) : Judged context query (.unreadable error)
  | malformed {tokens : List Token} {error : ParseError}
      (hlength : context.settings.parse.exceedsLimit query = false)
      (htokens : tokenize query = .ok tokens) (hparse : parse tokens = .error error) :
      Judged context query (.malformed error)
  | wellFormed {tokens : List Token} {e : Expr}
      (hlength : context.settings.parse.exceedsLimit query = false)
      (htokens : tokenize query = .ok tokens) (hparse : parse tokens = .ok e) :
      Judged context query (.wellFormed e)

/-- The line about a query that is well formed. -/
def okLine (context : CommandContext) (query : String) : String :=
  context.style.paint .success "ok" ++ " " ++ query ++ "\n"

/-- The line about a query with a fault. -/
def faultLine (context : CommandContext) (key query : String) : String :=
  context.style.paint .error key ++ " " ++ query ++ "\n"

/-- What is printed of a query: the entry of its option, or nothing. -/
def printed (context : CommandContext) (several : Bool) (chosen : OutputFormat)
    (query : String) : String :=
  match context.readQuery query with
  | .ok option => context.entry several chosen option
  | .error _ => ""

section

variable {context : CommandContext} {query key : String} {queries : List String}
  {verdict : Verdict} {several json : Bool} {chosen : OutputFormat}

/-! ## What each command makes of the verdict -/

/-- There is a verdict on every query. -/
lemma exists_judged (context : CommandContext) (query : String) :
    ∃ verdict, context.Judged query verdict := by
  rcases hlength : context.settings.parse.exceedsLimit query with _ | _
  · rcases htokens : tokenize query with error | tokens
    · exact ⟨_, .unreadable hlength htokens⟩
    · rcases hparse : parse tokens with error | e
      · exact ⟨_, .malformed hlength htokens hparse⟩
      · exact ⟨_, .wellFormed hlength htokens hparse⟩
  · exact ⟨_, .tooLong hlength⟩

namespace Judged

/-- The option or the diagnostic of a query. -/
lemma readQuery_eq (h : context.Judged query verdict) :
    context.readQuery query = context.optionOf query verdict := by
  cases h <;> simp [readQuery, SearchOption.ofText, parseQuery, optionOf, diagnostic, *]

/-- The diagnostic about a query. -/
lemma refusal_eq (h : context.Judged query verdict) :
    context.refusal query = context.diagnostic query verdict := by
  rw [refusal, h.readQuery_eq]
  cases verdict <;> rfl

/-- The fault of a query. -/
lemma fault?_eq (h : context.Judged query verdict) : context.fault? query = verdict.fault? := by
  cases h <;> simp [fault?, parseQuery, QueryError.key, ParseError.key, Verdict.fault?, *]

/-- Whether there are tokens to be printed. -/
lemma exitCode_tokenizeCommand (h : context.Judged query verdict) (json : Bool) :
    (tokenizeCommand context query json).ending.exitCode = if verdict.hasTokens then 0 else 1 := by
  cases h <;> simp [tokenizeCommand, report, Verdict.hasTokens, Ending.exitCode, *]

/-- What is said where there are no tokens to be printed. -/
lemma diagnostics_tokenizeCommand (h : context.Judged query verdict) (json : Bool) :
    (tokenizeCommand context query json).diagnostics =
      if verdict.hasTokens then "" else context.diagnostic query verdict := by
  cases h <;> simp [tokenizeCommand, report, Verdict.hasTokens, diagnostic, *]

/-- The verdict is about the length exactly if there is a limit and the query exceeds it. -/
lemma eq_tooLong_iff (h : context.Judged query verdict) :
    verdict = .tooLong ↔
      context.settings.parse.maxQueryLength ≠ 0 ∧
        context.settings.parse.maxQueryLength < query.utf8ByteSize := by
  have hlimit : context.settings.parse.exceedsLimit query = true ↔
      context.settings.parse.maxQueryLength ≠ 0 ∧
        context.settings.parse.maxQueryLength < query.utf8ByteSize := by
    simp [ParseSettings.exceedsLimit]
  rw [← hlimit]
  cases h <;> simp [*]

/-- Tokens that form no expression do so for a reason of the parser's own. -/
lemma key_ne_of_malformed {error : ParseError} (h : context.Judged query (.malformed error)) :
    error.key ≠ "TOKENIZER_EXCEPTION" := by
  obtain _ | _ | ⟨-, -, hparse⟩ := h
  have hown : ∀ lexError, error ≠ ParseError.tokenizer lexError := by
    rcases exists_token_of_parse_error hparse with ⟨-, rfl⟩ | ⟨t, -, hpoints⟩
    · simp
    · exact hpoints.ne_tokenizer
  cases error with
  | tokenizer lexError => exact absurd rfl (hown lexError)
  | _ => simp [ParseError.key]

end Judged

/-! ## The lines about queries -/

/-- A fault is never spelled like the word for well-formed queries. -/
lemma ne_ok_of_fault? (h : context.fault? query = some key) : key ≠ "ok" := by
  obtain ⟨verdict, hjudged⟩ := context.exists_judged query
  rw [hjudged.fault?_eq] at h
  cases verdict with
  | tooLong | unreadable error => simp [← Option.some.inj h]
  | malformed error => cases error <;> simp [← Option.some.inj h, ParseError.key]
  | wellFormed e => cases h

/-- Lines about a query are told apart by how they begin. -/
lemma line_inj {front front' : String} :
    front ++ " " ++ query ++ "\n" = front' ++ " " ++ query ++ "\n" ↔ front = front' := by
  simp [String.append_left_inj]

/-- Lines about different faults are different. -/
lemma faultLine_inj {key' : String} :
    context.faultLine key query = context.faultLine key' query ↔ key = key' := by
  rw [faultLine, faultLine, line_inj, Style.paint, Style.paint]
  split <;> simp [String.append_left_inj, String.append_right_inj]

/-- The line about a well-formed query is no line about a fault, with color or without. -/
lemma okLine_ne_faultLine (hkey : key ≠ "ok") :
    context.okLine query ≠ context.faultLine key query := by
  rw [okLine, faultLine, Ne, line_inj, Style.paint, Style.paint]
  split
  · intro heq
    have hlist := congrArg String.toList heq
    simp [TextRole.codes] at hlist
  · exact hkey.symm

/-- The line about a query says what the fault is, if there is any. -/
lemma checkLine_eq_okLine_iff :
    context.checkLine query = context.okLine query ↔ context.fault? query = none := by
  rcases hfault : context.fault? query with _ | key
  · simp [checkLine, hfault, okLine]
  · have hline : context.checkLine query = context.faultLine key query := by
      rw [checkLine, hfault, faultLine]
    rw [hline]
    exact iff_of_false (okLine_ne_faultLine (ne_ok_of_fault? hfault)).symm (by simp)

/-- The line about a query names a fault exactly if it is the fault. -/
lemma checkLine_eq_faultLine_iff (hkey : key ≠ "ok") :
    context.checkLine query = context.faultLine key query ↔ context.fault? query = some key := by
  rcases hfault : context.fault? query with _ | key'
  · rw [checkLine_eq_okLine_iff.mpr hfault]
    exact iff_of_false (okLine_ne_faultLine hkey) (by simp)
  · have hline : context.checkLine query = context.faultLine key' query := by
      rw [checkLine, hfault, faultLine]
    rw [hline, faultLine_inj, Option.some.injEq]

/-- Diagnostics are told apart by what they say. -/
lemma errorLine_inj {text text' : String} :
    context.errorLine text = context.errorLine text' ↔ text = text' := by
  rw [errorLine, errorLine, String.append_left_inj, String.append_right_inj]

/-- What is said about the syntax of a query begins in one way. -/
lemma exists_display_eq (e : QueryError) : ∃ rest, e.display = "search syntax error [" ++ rest := by
  unfold QueryError.display
  simp only [String.append_assoc]
  exact ⟨_, rfl⟩

/-- What is said about the length of a query is never said about its syntax. -/
lemma tooLong_ne_errorLine_display (e : QueryError) :
    context.tooLong query ≠ context.errorLine e.display := by
  obtain ⟨rest, hdisplay⟩ := exists_display_eq e
  rw [tooLong, Ne, errorLine_inj, hdisplay]
  simp only [String.append_assoc]
  generalize toString query.utf8ByteSize ++ _ = rest'
  intro htext
  have hstart := congrArg String.toList htext
  simp [String.toList_append] at hstart

/-- Something is said about the length of a query. -/
lemma tooLong_ne_empty (context : CommandContext) (query : String) :
    context.tooLong query ≠ "" := by
  rw [tooLong]
  generalize "query is " ++ _ ++ _ = text
  simp [errorLine]

/-- The diagnostic tells whether the verdict is about the length. -/
lemma diagnostic_eq_tooLong_iff (context : CommandContext) (query : String) :
    context.diagnostic query verdict = context.tooLong query ↔ verdict = .tooLong := by
  cases verdict with
  | tooLong => simp [diagnostic]
  | unreadable error => simp [diagnostic, (tooLong_ne_errorLine_display _).symm]
  | malformed error => simp [diagnostic, (tooLong_ne_errorLine_display _).symm]
  | wellFormed e => simp [diagnostic, (tooLong_ne_empty context query).symm]

/-! ## Queries one by one -/

/-- What is printed of an expression in a text format is never empty. -/
lemma entry_ne_empty (hchosen : chosen ≠ .json) (option : SearchOption) :
    context.entry several chosen option ≠ "" := by
  have hlines : option.expression.lines chosen ≠ "" := by
    cases chosen with
    | tree =>
      rw [Expr.lines, ← Expr.trimWhiteSpaceEnd_tree]
      simp
    | compact | query => simp [Expr.lines]
    | json => exact absurd rfl hchosen
  intro hentry
  exact hlines (String.append_eq_empty_iff.mp hentry).2

/-- What is printed of the queries is what is printed of the accepted ones. -/
lemma join_map_printed (queries : List String) :
    String.join (queries.map (context.printed several chosen)) =
      String.join ((context.accepted queries).map (context.entry several chosen)) := by
  induction queries with
  | nil => rfl
  | cons query queries ih =>
    rcases hread : context.readQuery query with diagnostic | option
    · rw [accepted_cons_of_error hread, List.map_cons, String.join_cons, ih, printed, hread]
      exact String.empty_append
    · rw [accepted_cons_of_ok hread, List.map_cons, String.join_cons, ih, printed, hread,
        List.map_cons, String.join_cons]

/-- Queries are accepted if they have no fault. -/
lemma accepts_eq_isNone_fault? (context : CommandContext) (query : String) :
    context.accepts query = (context.fault? query).isNone := by
  obtain ⟨verdict, hjudged⟩ := context.exists_judged query
  rw [accepts, hjudged.readQuery_eq, hjudged.fault?_eq]
  cases verdict <;> rfl

end

end CommandContext

/-- What the commands say about one query: the word about it is the one for well-formed queries if
the query is printed with its expression; it is the one for the length if there is a limit that the
query exceeds, and then the other commands refuse the query for its length; and short of that, its
tokens are printed if it is not the word for queries that cannot be split into tokens. -/
structure CommandsAgree (context : CommandContext) (query : String) : Prop where
  printed_iff : ∀ (several : Bool) (chosen : OutputFormat), chosen ≠ .json →
    (context.checkLine query = context.okLine query ↔ context.printed several chosen query ≠ "")
  tooLong_iff : context.checkLine query = context.faultLine "QUERY_TOO_LONG" query ↔
    context.settings.parse.maxQueryLength ≠ 0 ∧
      context.settings.parse.maxQueryLength < query.utf8ByteSize
  refused_iff : context.checkLine query = context.faultLine "QUERY_TOO_LONG" query ↔
    context.refusal query = context.tooLong query
  untokenized_iff : ∀ json : Bool,
    context.checkLine query = context.faultLine "QUERY_TOO_LONG" query ↔
      (tokenizeCommand context query json).ending.exitCode = 1 ∧
        (tokenizeCommand context query json).diagnostics = context.tooLong query
  tokenized_iff : ∀ json : Bool,
    ¬(context.settings.parse.maxQueryLength ≠ 0 ∧
      context.settings.parse.maxQueryLength < query.utf8ByteSize) →
    ((tokenizeCommand context query json).ending.exitCode = 0 ↔
      context.checkLine query ≠ context.faultLine "TOKENIZER_EXCEPTION" query)

section

variable {context : CommandContext} {query : String} {queries : List String}
  {format : Option OutputFormat} {chosen : OutputFormat}

/-- The word about a query names the length exactly if the verdict is about it. -/
lemma checkLine_eq_tooLong_iff {verdict : Verdict} (h : context.Judged query verdict) :
    context.checkLine query = context.faultLine "QUERY_TOO_LONG" query ↔ verdict = .tooLong := by
  rw [CommandContext.checkLine_eq_faultLine_iff (by decide), h.fault?_eq]
  cases verdict with
  | malformed error => cases error <;> simp [Verdict.fault?, ParseError.key]
  | _ => simp [Verdict.fault?]

/-- Short of a query that is too long, the word about it names the lexer exactly if there are no
tokens. -/
lemma checkLine_eq_unreadable_iff {verdict : Verdict} (h : context.Judged query verdict)
    (hlength : verdict ≠ .tooLong) :
    context.checkLine query = context.faultLine "TOKENIZER_EXCEPTION" query ↔
      verdict.hasTokens = false := by
  rw [CommandContext.checkLine_eq_faultLine_iff (by decide), h.fault?_eq]
  cases verdict with
  | tooLong => exact absurd rfl hlength
  | malformed error => simp [Verdict.fault?, Verdict.hasTokens, h.key_ne_of_malformed]
  | unreadable error => simp [Verdict.fault?, Verdict.hasTokens]
  | wellFormed e => simp [Verdict.fault?, Verdict.hasTokens]

/-- The commands agree on every query. -/
lemma commandsAgree (context : CommandContext) (query : String) :
    CommandsAgree context query := by
  obtain ⟨verdict, hjudged⟩ := context.exists_judged query
  have hword := checkLine_eq_tooLong_iff hjudged
  refine ⟨?_, hword.trans hjudged.eq_tooLong_iff, hword.trans ?_, ?_, ?_⟩
  · intro several chosen hchosen
    rw [CommandContext.checkLine_eq_okLine_iff, hjudged.fault?_eq, CommandContext.printed,
      hjudged.readQuery_eq]
    cases verdict with
    | wellFormed e =>
      exact iff_of_true rfl (CommandContext.entry_ne_empty hchosen _)
    | _ => simp [Verdict.fault?, CommandContext.optionOf]
  · rw [hjudged.refusal_eq, context.diagnostic_eq_tooLong_iff query]
  · intro json
    rw [hword, hjudged.exitCode_tokenizeCommand, hjudged.diagnostics_tokenizeCommand,
      ← context.diagnostic_eq_tooLong_iff query]
    cases verdict <;> simp [Verdict.hasTokens, CommandContext.diagnostic_eq_tooLong_iff]
  · intro json hwithin
    have hlength : verdict ≠ .tooLong := mt hjudged.eq_tooLong_iff.mp hwithin
    rw [hjudged.exitCode_tokenizeCommand, Ne, checkLine_eq_unreadable_iff hjudged hlength]
    cases verdict.hasTokens <;> simp

/-! ## Lists of queries -/

/-- The words about queries are all good exactly if all queries are accepted. -/
lemma exitCode_checkCommand_eq_zero_iff :
    (checkCommand context queries).ending.exitCode = 0 ↔
      ∀ query ∈ queries, context.accepts query = true := by
  have hfaults : (∀ query ∈ queries, context.accepts query = true) ↔
      (queries.any fun query => (context.fault? query).isSome) = false := by
    simp [CommandContext.accepts_eq_isNone_fault?]
  rw [hfaults, checkCommand, CommandContext.report]
  cases queries.any fun query => (context.fault? query).isSome <;> simp [Ending.exitCode]

/-- A command that goes through all queries succeeds exactly if all are accepted. -/
lemma exitCode_of_refused_eq_zero_iff :
    (if ∃ query ∈ queries, context.accepts query = false then 1 else 0) = 0 ↔
      ∀ query ∈ queries, context.accepts query = true := by
  simp

/-- In a text format, expressions are printed without a failure exactly if all queries are
accepted and all expressions can be written. -/
lemma exitCode_parseCommand_text
    (hchosen : format.getD context.settings.output.format = chosen) (htext : chosen ≠ .json) :
    (parseCommand context queries format).ending.exitCode = 0 ↔
      (∀ query ∈ queries, context.accepts query = true) ∧
        ∀ option ∈ context.accepted queries,
          ∃ text, option.expression.render? chosen = some text := by
  by_cases hwritten : ∀ option ∈ context.accepted queries,
      ∃ text, option.expression.render? chosen = some text
  · have hending : (parseCommand context queries format).ending =
        if (context.accepted queries).length < queries.length then .failure else .success := by
      rw [parseCommand_text hchosen htext, CommandContext.printTexts_of_forall hwritten]
      rfl
    rw [hending, exitCode_of_refused, exitCode_of_refused_eq_zero_iff]
    exact (and_iff_left hwritten).symm
  · rw [ending_parseCommand_of_unwritten hchosen htext hwritten]
    exact iff_of_false (by decide) fun h => hwritten h.2

/-- As JSON, options are printed without a failure exactly if all queries are accepted and no
expression is too deep. -/
lemma exitCode_parseCommand_json
    (hchosen : format.getD context.settings.output.format = .json) :
    (parseCommand context queries format).ending.exitCode = 0 ↔
      (∀ query ∈ queries, context.accepts query = true) ∧
        ∀ option ∈ context.accepted queries, option.expression.depth ≤ serializeDepth := by
  by_cases hdepth : ∀ option ∈ context.accepted queries, option.expression.depth ≤ serializeDepth
  · rw [(printsArray_parseCommand hchosen hdepth).exitCode, exitCode_of_refused_eq_zero_iff]
    exact (and_iff_left hdepth).symm
  · have hdeep : ∃ option ∈ context.accepted queries, serializeDepth < option.expression.depth := by
      simpa using hdepth
    rw [(parseCommand_of_tooDeep hchosen hdeep).2]
    exact iff_of_false (by decide) fun h => hdepth h.2

/-- In a text format, what is printed is what is printed of the queries one by one. -/
lemma output_parseCommand_text
    (hchosen : format.getD context.settings.output.format = chosen) (htext : chosen ≠ .json)
    (hwritten : ∀ option ∈ context.accepted queries,
      ∃ text, option.expression.render? chosen = some text) :
    (parseCommand context queries format).output =
        String.join (queries.map (context.printed (1 < queries.length) chosen)) ∧
      (parseCommand context queries format).diagnostics =
        String.join (queries.map context.refusal) := by
  rw [parseCommand_text hchosen htext, CommandContext.printTexts_of_forall hwritten,
    CommandContext.join_map_printed]
  exact ⟨rfl, rfl⟩

/-- On every query the commands agree, and in a text format queries are printed without a failure
exactly if the words about them are all good, unless an expression is to be written as an outline
of too many levels; then also, what is printed and what is said is, query by query, what the words
about the queries stand for.  As JSON, queries are printed without a failure exactly if the words
about them are all good and no expression is too deep. -/
theorem commands_agree (hchosen : format.getD context.settings.output.format = chosen) :
    (chosen ≠ .json →
      ((parseCommand context queries format).ending.exitCode = 0 ↔
        (checkCommand context queries).ending.exitCode = 0 ∧
          (chosen = .tree →
            ∀ option ∈ context.accepted queries, option.expression.depth ≤ Expr.outlineDepth)) ∧
      ((chosen = .tree →
          ∀ option ∈ context.accepted queries, option.expression.depth ≤ Expr.outlineDepth) →
        (parseCommand context queries format).output =
            String.join (queries.map (context.printed (1 < queries.length) chosen)) ∧
          (parseCommand context queries format).diagnostics =
            String.join (queries.map context.refusal))) ∧
    (chosen = .json →
      ((parseCommand context queries format).ending.exitCode = 0 ↔
        (checkCommand context queries).ending.exitCode = 0 ∧
          ∀ option ∈ context.accepted queries, option.expression.depth ≤ serializeDepth)) ∧
    (checkCommand context queries).output = String.join (queries.map context.checkLine) ∧
    (context.accepted queries).map SearchOption.text =
      queries.filter (fun query => context.checkLine query = context.okLine query) ∧
    ∀ query ∈ queries, CommandsAgree context query := by
  refine ⟨fun htext => ⟨?_, ?_⟩, ?_, rfl, ?_, fun query _ => commandsAgree context query⟩
  · rw [exitCode_parseCommand_text hchosen htext, exitCode_checkCommand_eq_zero_iff,
      forall_exists_render?_iff htext]
  · rw [← forall_exists_render?_iff htext]
    exact output_parseCommand_text hchosen htext
  · rintro rfl
    rw [exitCode_parseCommand_json hchosen, exitCode_checkCommand_eq_zero_iff]
  · rw [CommandContext.map_text_accepted]
    refine congrArg (queries.filter ·) (funext fun query => ?_)
    rw [CommandContext.accepts_eq_isNone_fault?, Bool.eq_iff_iff, Option.isNone_iff_eq_none,
      decide_eq_true_iff, CommandContext.checkLine_eq_okLine_iff]

end

/-- Two words are well formed, and are printed as such. -/
theorem words_pass_all_commands :
    (checkCommand .unlimited ["tea", "milk"]).ending.exitCode = 0 ∧
      (parseCommand .unlimited ["tea", "milk"] none).ending.exitCode = 0 := by
  have htea := CommandContext.readQuery_unlimited (parseQuery_word "tea" (by decide))
  have hmilk := CommandContext.readQuery_unlimited (parseQuery_word "milk" (by decide))
  have hcheck : (checkCommand .unlimited ["tea", "milk"]).ending.exitCode = 0 := by
    rw [exitCode_checkCommand_eq_zero_iff]
    simp [CommandContext.accepts_of_readQuery htea, CommandContext.accepts_of_readQuery hmilk]
  have hdepth : ∀ option ∈ CommandContext.unlimited.accepted ["tea", "milk"],
      option.expression.depth ≤ Expr.outlineDepth := by
    rw [CommandContext.accepted_cons_of_ok htea, CommandContext.accepted_cons_of_ok hmilk]
    simp [CommandContext.accepted, Expr.depth_eq_height, Expr.height, Expr.outlineDepth]
  obtain ⟨htext, -⟩ := @commands_agree .unlimited ["tea", "milk"] none .tree rfl
  exact ⟨hcheck, (htext (by decide)).1.mpr ⟨hcheck, fun _ => hdepth⟩⟩

/-- A run of 32769 words is well formed, but is not printed as an outline. -/
theorem long_word_run_passes_only_check :
    (checkCommand .unlimited [wordRun 32768]).ending.exitCode = 0 ∧
      (parseCommand .unlimited [wordRun 32768] (some .tree)).ending.exitCode = 101 := by
  obtain ⟨option, hrun, -⟩ := exists_readQuery_wordRun
  constructor
  · rw [exitCode_checkCommand_eq_zero_iff]
    intro query hquery
    rw [List.mem_singleton.mp hquery]
    exact CommandContext.accepts_of_readQuery hrun
  · rw [ending_parseCommand_wordRun]
    rfl

end SearchQuery
