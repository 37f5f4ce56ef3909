import Packrat.Proofs.Lowering.Leaf
import Packrat.Proofs.Lowering.Repetition

/-!
# Programs of rules

A run of the program of a rule comes out in one of the ways in which the rule may. What the
programs of the composite rules rely on is that types are inferred from the rules.

* `WellTyped`: what the program of a rule relies on.

Main statement: `rule_concludes`.
-/

namespace Packrat.Lowering

open Assemble Machine Inference

variable {s : Scene} {cx : Context} {a b : Assembler} {regs : Registers} {slot : Option Slot}
  {book : Book}

/-- The type of a rule suits those of its children. -/
structure WellTyped (cx : Context) (rule : Rule) : Prop where
  fixed : FixedType rule cx.output
  candidates : ∀ base candidates, rule = .alternative base candidates →
    ∀ candidate ∈ candidates, Agrees cx candidate
  inner : ∀ opening inner closing, rule = .surround opening inner closing → Agrees cx inner
  optional : ∀ child, rule = .optional child → cx.output.isScalar = false
  list : ∀ element separator min max, rule = .repetition element separator min max .list →
    if cx.grammar.outputOf element = .void then cx.output = .void else Boxed cx.output

/-- Inferred types are suitable. -/
theorem wellTyped_of_inferred {g : Grammar} (inferred : g.Inferred) {id : RuleId} {d : RuleDef}
    (found : g.get? id = some d) (model : ObjectModel) (name : String) :
    WellTyped ⟨g, model, name, g.outputOf id⟩ d.rule where
  fixed := inferred.fixedType found
  candidates _ _ rule _ member := inferred.candidate_agrees found rule member
  inner _ _ _ rule := inferred.inner_agrees found rule
  optional _ rule := inferred.optional_not_scalar found rule
  list _ _ _ _ rule := inferred.list_type found rule

/-- The result of a repetition is what it gathers. -/
theorem WellTyped.repetition {element : RuleId} {separator : Option RuleId} {min : Nat}
    {max : Option Nat} {collect : Collect}
    (typed : WellTyped cx (.repetition element separator min max collect)) :
    if collect = .list ∧ cx.grammar.outputOf element = .void then cx.output = .void
      else Boxed cx.output := by
  cases collect with
  | text =>
    rw [if_neg (by simp), typed.fixed .text fun _ => rfl]
    exact ⟨rfl, rfl⟩
  | list =>
    have list := typed.list element separator min max rfl
    by_cases void : cx.grammar.outputOf element = .void
    · rw [if_pos void] at list
      rwa [if_pos ⟨rfl, void⟩]
    · rw [if_neg void] at list
      rwa [if_neg fun both => void both.2]

/-- A run of the program of a rule comes out in one of the ways in which the rule may. -/
theorem rule_concludes [RegexEngine] (sound : s.Sound) (grammar : s.grammar = cx.grammar)
    (model : s.env.model = cx.model) (record : RecordLike cx.model)
    (named : s.program.name = cx.name) {rule : Rule} (typed : WellTyped cx rule)
    (emits : Emits (body cx rule) a slot b) (placed : Placed s.program b)
    (result : s.program.result = slot) (output : s.program.output = cx.output) :
    s.Concludes (.of (Meaning.rule s.child s.env cx s.start rule) book) a.code.size regs
      s.start := by
  have leaf (isLeaf : IsLeaf rule) (same : Meaning.rule s.child s.env cx s.start rule =
      pure ((Meaning.leaf? s.env s.start rule).getD .failed)) :
      s.Concludes (.of (Meaning.rule s.child s.env cx s.start rule) book) a.code.size regs
        s.start := by
    refine (leaf_concludes sound isLeaf emits placed result output typed.fixed).mono ?_
    intro out book' ⟨comes, stays⟩
    rw [same, comes]
    exact ⟨rfl, stays⟩
  cases rule with
  | sequence ty items separator =>
    refine sequence_concludes sound grammar model record emits placed result output ?_
    cases ty with
    | none => exact typed.fixed .void fun _ => rfl
    | some ty => exact typed.fixed (.object ty) fun _ => rfl
  | alternative base candidates =>
    exact alternative_concludes sound grammar emits placed result output
      (typed.candidates base candidates rfl)
  | repetition element separator min max collect =>
    exact repetition_concludes sound grammar named emits placed result output typed.repetition
  | optional child =>
    exact optional_concludes sound grammar emits placed result output (typed.optional child rfl)
  | lookAhead child =>
    exact lookAhead_concludes sound emits placed result
      (output.trans (typed.fixed .void fun _ => rfl))
  | not child =>
    exact notAhead_concludes sound emits placed result
      (output.trans (typed.fixed .void fun _ => rfl))
  | surround opening inner closing =>
    exact surround_concludes sound grammar emits placed result output
      (typed.inner opening inner closing rfl)
  | capture child =>
    exact capture_concludes sound emits placed result
      (output.trans (typed.fixed .text fun _ => rfl))
  | _ => exact leaf trivial rfl

end Packrat.Lowering
