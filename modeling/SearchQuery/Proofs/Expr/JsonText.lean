import SearchQuery.Proofs.Expr.Limits
import SearchQuery.Proofs.Text.Json

/-!
# An expression is identified by its JSON text

Two steps lead from an expression to its JSON text, and neither confuses anything: the JSON form
of a node has its type in it (`Expr.json_injective`), and no two JSON values have the same text
(`Json.write_injective`).  Whether there is a text depends on the number of levels alone, so an
expression and a search option with it have one up to the same depth (`json_text_identifies`).
-/

namespace SearchQuery

namespace Expr

/-- Connectives are told apart by their keywords. -/
lemma text_keyword_injective : Function.Injective fun c : Connective => c.keyword.text := by
  intro c d h
  cases c <;> cases d <;> first | rfl | exact absurd h (by decide)

/-- No two expressions have the same JSON form. -/
lemma json_injective : Function.Injective json := by
  intro a
  induction a with
  | term value =>
    intro b h
    cases b with
    | term other => simpa [json] using h
    | not operand => simp [json] at h
    | binary connective left right => simp [json] at h
  | not operand ih =>
    intro b h
    cases b with
    | term value => simp [json] at h
    | not other =>
      have hoperand : operand.json = other.json := by simpa [json] using h
      rw [ih hoperand]
    | binary connective left right => simp [json] at h
  | binary connective left right ihl ihr =>
    intro b h
    cases b with
    | term value => simp [json] at h
    | not operand => simp [json] at h
    | binary other otherLeft otherRight =>
      obtain ⟨hkeyword, hleft, hright⟩ :
          connective.keyword.text = other.keyword.text ∧ left.json = otherLeft.json ∧
            right.json = otherRight.json := by
        simpa [json] using h
      rw [text_keyword_injective hkeyword, ihl hleft, ihr hright]

/-- The JSON text of an expression. -/
def jsonText (layout : Json.Layout) (e : Expr) : Except SerializeError String :=
  e.toJson.map fun value => value.write layout 0 ""

end Expr

namespace SearchOption

/-- No two options have the same JSON form. -/
lemma json_injective : Function.Injective json := by
  intro option other h
  rcases option with ⟨text, expression⟩
  rcases other with ⟨otherText, otherExpression⟩
  obtain ⟨htext, hexpression⟩ : text = otherText ∧ expression.json = otherExpression.json := by
    simpa [json] using h
  rw [htext, Expr.json_injective hexpression]

/-- The JSON text of an option. -/
def jsonText (layout : Json.Layout) (option : SearchOption) : Except SerializeError String :=
  option.toJson.map fun value => value.write layout 0 ""

end SearchOption

/-- Up to a number of levels each value has a text, which no other value has; a deeper one is
refused. -/
structure IdentifiedByText {α : Type} (levels : Nat) (depth : α → Nat)
    (text : α → Except SerializeError String) : Prop where
  exists_text_iff : ∀ a, (∃ t, text a = .ok t) ↔ depth a ≤ levels
  refused_iff : ∀ a, text a = .error .nestedTooDeep ↔ levels < depth a
  eq_of_text : ∀ a b t, text a = .ok t → text b = .ok t → a = b

/-- Where no two values have the same JSON form, they are identified by its text. -/
lemma identifiedByText_of_json {α : Type} {levels : Nat} {depth : α → Nat} {json : α → Json}
    {toJson : α → Except SerializeError Json} (layout : Json.Layout)
    (htoJson : ∀ a, toJson a = if depth a ≤ levels then .ok (json a) else .error .nestedTooDeep)
    (hjson : Function.Injective json) :
    IdentifiedByText levels depth fun a =>
      (toJson a).map fun value => value.write layout 0 "" := by
  have hok : ∀ a, depth a ≤ levels → toJson a = .ok (json a) :=
    fun a hdepth => (htoJson a).trans (if_pos hdepth)
  have herror : ∀ a, ¬ depth a ≤ levels → toJson a = .error .nestedTooDeep :=
    fun a hdepth => (htoJson a).trans (if_neg hdepth)
  constructor
  · intro a
    by_cases hdepth : depth a ≤ levels
    · simp [hok a hdepth, hdepth, Except.map]
    · simp [herror a hdepth, hdepth, Except.map]
  · intro a
    by_cases hdepth : depth a ≤ levels
    · simp [hok a hdepth, hdepth, Except.map]
    · simpa [herror a hdepth, Except.map] using hdepth
  · intro a b t ha hb
    by_cases hdepth : depth a ≤ levels
    · by_cases hdepth' : depth b ≤ levels
      · rw [hok a hdepth] at ha
        rw [hok b hdepth'] at hb
        have htext : (json a).write layout 0 "" = (json b).write layout 0 "" :=
          Except.ok.inj (ha.trans hb.symm)
        exact hjson (Json.write_injective layout 0 "" htext)
      · simp [herror b hdepth', Except.map] at hb
    · simp [herror a hdepth, Except.map] at ha

/-- In either layout an expression, alone or in a search option, has a JSON text exactly if it has
no more than 512 levels, and else the error that says so; what has the same text is the same. -/
theorem json_text_identifies (layout : Json.Layout) :
    IdentifiedByText 512 Expr.depth (Expr.jsonText layout) ∧
      IdentifiedByText 512 (fun option => option.expression.depth) (SearchOption.jsonText layout) ∧
      SerializeError.nestedTooDeep.message = "expression is nested deeper than 512 levels" := by
  refine ⟨?_, ?_, by decide⟩
  · exact identifiedByText_of_json layout Expr.toJson_eq Expr.json_injective
  · exact identifiedByText_of_json layout SearchOption.toJson_eq SearchOption.json_injective

end SearchQuery
