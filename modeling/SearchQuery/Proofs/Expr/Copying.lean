import Mathlib.Logic.Relation
import Mathlib.Tactic.Lemma
import SearchQuery.Expr.Copy
import SearchQuery.Expr.Recursion

/-!
# Copies of trees

What is still to be done in a copy amounts to steps of assembly, in which a subtree to be copied
stands for the steps that build it.  Performed on the finished copies, they would leave just the
tree that is to be copied (`Copying.Builds`).  This is so at the beginning (`builds_start`), and it
stays so whatever is done (`Builds.next`).

Since a step of assembly fails without its operands, an operator whose turn it is finds them among
the finished copies (`Builds.findsOperands`); and when nothing is left to do, the tree is the one
copy that there is (`Builds.finish_eq`).
-/

namespace SearchQuery

/-- The steps of assembly to which a thing to be done amounts. -/
def Rebuild.steps : Rebuild → List Assembly
  | visit e => e.steps
  | .not => [.not]
  | binary connective => [.binary connective]

namespace Copying

variable {e : Expr} {s t : Copying} {step : Rebuild} {pending : List Rebuild} {built : List Expr}

/-- The state after the next thing is done. -/
inductive Next : Copying → Copying → Prop
  | perform (step : Rebuild) (pending : List Rebuild) (built : List Expr) :
    Next ⟨step :: pending, built⟩ (step.perform pending built)

/-- If the next thing to be done is an operator, there are copies of its operands. -/
def FindsOperands (s : Copying) : Prop :=
  match s.pending with
  | .not :: _ => ∃ operand built, s.built = operand :: built
  | .binary _ :: _ => ∃ right left built, s.built = right :: left :: built
  | .visit _ :: _ | [] => True

/-- All that is to be done, in steps of assembly, leaves just the tree. -/
def Builds (e : Expr) (s : Copying) : Prop :=
  Assembly.run s.built (s.pending.flatMap Rebuild.steps) = some [e]

/-- The next thing to be done comes before the others. -/
lemma builds_cons_iff :
    Builds e ⟨step :: pending, built⟩ ↔
      Assembly.run built (step.steps ++ pending.flatMap Rebuild.steps) = some [e] := Iff.rfl

/-- One step of assembly and then the others. -/
lemma run_cons (assembly : Assembly) (steps : List Assembly) :
    Assembly.run built (assembly :: steps) =
      (assembly.apply built).bind fun built' => Assembly.run built' steps := rfl

/-- A copy builds the tree that is to be copied. -/
lemma builds_start (e : Expr) : (start e).Builds e := by
  rw [start, builds_cons_iff, Rebuild.steps, Expr.run_steps_append]
  rfl

/-- An operator that is next finds its operands. -/
lemma Builds.findsOperands (h : s.Builds e) : s.FindsOperands := by
  obtain ⟨_ | ⟨step, pending⟩, built⟩ := s
  · trivial
  rw [builds_cons_iff] at h
  cases step with
  | visit e => trivial
  | not =>
    rcases built with _ | ⟨operand, built⟩
    · simp [Rebuild.steps, run_cons, Assembly.apply] at h
    · exact ⟨operand, built, rfl⟩
  | binary connective =>
    rcases built with _ | ⟨right, _ | ⟨left, built⟩⟩
    · simp [Rebuild.steps, run_cons, Assembly.apply] at h
    · simp [Rebuild.steps, run_cons, Assembly.apply] at h
    · exact ⟨right, left, built, rfl⟩

/-- Whatever is done, a copy builds the same tree. -/
lemma Builds.perform (h : Builds e ⟨step :: pending, built⟩) :
    (step.perform pending built).Builds e := by
  have hoperands := h.findsOperands
  rw [builds_cons_iff] at h
  cases step with
  | visit x =>
    cases x with
    | term value => exact h
    | not operand =>
      rw [Rebuild.steps, Expr.steps, List.append_assoc] at h
      exact h
    | binary connective left right =>
      rw [Rebuild.steps, Expr.steps, List.append_assoc, List.append_assoc] at h
      exact h
  | not =>
    obtain ⟨operand, built, rfl⟩ := hoperands
    exact h
  | binary connective =>
    obtain ⟨right, left, built, rfl⟩ := hoperands
    exact h

/-- A copy builds the same tree after the next thing is done. -/
lemma Builds.next (h : s.Builds e) (hnext : Next s t) : t.Builds e := by
  cases hnext with
  | perform step pending built => exact h.perform

/-- A copy builds the same tree after any number of things are done. -/
lemma Builds.of_reflTransGen (h : s.Builds e) (hreach : Relation.ReflTransGen Next s t) :
    t.Builds e := by
  induction hreach with
  | refl => exact h
  | tail _ hnext ih => exact ih.next hnext

/-- When nothing is left to do, the tree is the only copy. -/
lemma Builds.finish_eq (h : s.Builds e) : s.finish = [e] := by
  fun_induction finish s with
  | case1 built => exact Option.some.inj h
  | case2 step pending built ih => exact ih h.perform

end Copying

/-- Copying and comparing are exact, whatever the trees.  A copy is the tree itself: every operator
finds its operands among the finished copies, so none is passed over and nothing is lost, and there
is exactly one tree in the end.  Two trees are found to be the same if and only if they are. -/
theorem copies_and_comparisons_are_exact :
    (∀ e : Expr, e.clone = e ∧ (Copying.start e).finish = [e] ∧
      ∀ s, Relation.ReflTransGen Copying.Next (Copying.start e) s → s.FindsOperands) ∧
    ∀ a b : Expr, a.same b = true ↔ a = b := by
  refine ⟨fun e => ?_, Expr.same_eq_true_iff⟩
  have hstart := Copying.builds_start e
  refine ⟨?_, hstart.finish_eq, fun s hreach => (hstart.of_reflTransGen hreach).findsOperands⟩
  rw [Expr.clone, hstart.finish_eq]

/-- In the middle of a copy of `a AND NOT b`, when the negation is next. -/
theorem copy_finds_operand_of_negation :
    let e : Expr := .and (.term "a") (.not (.term "b"))
    let s : Copying := ⟨[.not, .binary .and], [.term "b", .term "a"]⟩
    Relation.ReflTransGen Copying.Next (Copying.start e) s ∧ s.FindsOperands ∧ e.clone = e ∧
      e.same (.and (.not (.term "b")) (.term "a")) = false := by
  intro e s
  have hreach : Relation.ReflTransGen Copying.Next (Copying.start e) s :=
    .head (.perform _ _ _) (.head (.perform _ _ _) (.head (.perform _ _ _)
      (.head (.perform _ _ _) .refl)))
  obtain ⟨hcopies, hsame⟩ := copies_and_comparisons_are_exact
  refine ⟨hreach, (hcopies e).2.2 s hreach, (hcopies e).1, ?_⟩
  rw [← Bool.not_eq_true, hsame]
  decide

end SearchQuery
