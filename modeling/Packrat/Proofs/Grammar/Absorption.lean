import Packrat.Proofs.Grammar.Inference

/-!
# Types that absorb others

A type absorbs another one if the join of both is the type itself; then it has all values of the
other one. The type inferred for a composite rule absorbs what its children come to, except that
an estimate passes over children whose own type is unknown. Such children have type `any` in the
end, so the exception matters to alternatives only: any other composite rule has one child to go
by, and is unknown with it.

* `OutputType.Absorbs`: the join of both types is the first one.
* `Inference.Justified`: an estimate is known only where it can be computed.
* `Grammar.Spreads`: alternatives with a candidate of type `any` have type `any`.

Main statements: `Grammar.Inferred.absorbs_candidate`, `absorbs_optional`, `absorbs_inner`,
`absorbs_list`, and `spreads_of_known`.
-/

namespace Packrat

/-! ## The order of types -/

namespace OutputType

variable {a b c : OutputType}

/-- The join of both types is the first one. -/
def Absorbs (a b : OutputType) : Prop := a.join b = a

/-- Only `number` and `any` absorb other types than themselves. -/
theorem absorbs_iff : a.Absorbs b ↔ a = b ∨ a = .any ∨ (a = .number ∧ b.isNumeric = true) := by
  unfold Absorbs join
  by_cases same : a = b
  · simp [same]
  · rw [if_neg same]
    cases a <;> cases b <;> simp_all [isNumeric]

/-- A type absorbs itself. -/
theorem Absorbs.refl (a : OutputType) : a.Absorbs a := absorbs_iff.mpr (.inl rfl)

/-- The type `any` absorbs every type. -/
theorem any_absorbs (a : OutputType) : OutputType.any.Absorbs a := absorbs_iff.mpr (.inr (.inl rfl))

/-- What a type that is absorbed absorbs is absorbed. -/
theorem Absorbs.trans (first : a.Absorbs b) (second : b.Absorbs c) : a.Absorbs c := by
  rw [absorbs_iff] at *
  rcases first with rfl | rfl | ⟨rfl, numeric⟩
  · exact second
  · exact .inr (.inl rfl)
  · rcases second with rfl | rfl | ⟨rfl, numeric'⟩
    · exact .inr (.inr ⟨rfl, numeric⟩)
    · cases numeric
    · exact .inr (.inr ⟨rfl, numeric'⟩)

/-- A join absorbs the first type. -/
theorem join_absorbs_left (a b : OutputType) : (a.join b).Absorbs a := by
  rw [absorbs_iff, join]
  split
  · exact .inl rfl
  · split
    case isTrue numeric => exact .inr (.inr ⟨rfl, (Bool.and_eq_true_iff.mp numeric).1⟩)
    case isFalse => exact .inr (.inl rfl)

/-- A join absorbs the second type. -/
theorem join_absorbs_right (a b : OutputType) : (a.join b).Absorbs b := by
  rw [absorbs_iff, join]
  split
  case isTrue same => exact .inl same
  case isFalse =>
    split
    case isTrue numeric => exact .inr (.inr ⟨rfl, (Bool.and_eq_true_iff.mp numeric).2⟩)
    case isFalse => exact .inr (.inl rfl)

/-- A join of several types absorbs each of them. -/
theorem foldl_join_absorbs {rest : List OutputType} {first : OutputType} :
    ∀ ty ∈ first :: rest, (rest.foldl join first).Absorbs ty := by
  induction rest generalizing first with
  | nil =>
    intro ty member
    rw [List.mem_singleton.mp member]
    exact .refl first
  | cons next rest ih =>
    intro ty member
    rw [List.foldl_cons]
    have joined := ih (first.join next) List.mem_cons_self
    rcases List.mem_cons.mp member with rfl | member
    · exact joined.trans (join_absorbs_left ty next)
    · rcases List.mem_cons.mp member with rfl | member
      · exact joined.trans (join_absorbs_right first ty)
      · exact ih ty (List.mem_cons_of_mem _ member)

end OutputType

namespace Inference

variable {types : Estimates} {rules : List Rule} {rule : Rule} {i : Nat}

/-- The join of the known types absorbs each of them. -/
theorem joinKnown_absorbs {known : List (Option OutputType)} {new ty : OutputType}
    (joined : joinKnown known = some new) (member : some ty ∈ known) : new.Absorbs ty := by
  unfold joinKnown at joined
  have present : ty ∈ known.filterMap id := List.mem_filterMap.mpr ⟨some ty, member, rfl⟩
  split at joined
  · cases joined
  case h_2 first rest all =>
    cases joined
    rw [all] at present
    exact OutputType.foldl_join_absorbs ty present

/-- There is no join if and only if no type is known. -/
theorem joinKnown_eq_none {known : List (Option OutputType)} :
    joinKnown known = none ↔ ∀ ty ∈ known, ty = none := by
  unfold joinKnown
  split
  case h_1 none => exact iff_of_true rfl (List.filterMap_eq_nil_iff.mp none)
  case h_2 first rest all =>
    refine iff_of_false nofun fun none => ?_
    have empty : known.filterMap id = [] := List.filterMap_eq_nil_iff.mpr none
    rw [empty] at all
    cases all

/-! ## Known estimates -/

/-- Every estimate that is known can be computed from the others. -/
def Justified (rules : List Rule) (types : Estimates) : Prop :=
  ∀ (i : Nat) (rule : Rule), rules[i]? = some rule → types.of ⟨i⟩ ≠ none → step types rule ≠ none

/-- A type that can be computed still can be where more estimates are known. -/
theorem step_of_more {types' : Estimates} (more : ∀ id, types.of id ≠ none → types'.of id ≠ none)
    (computed : step types rule ≠ none) : step types' rule ≠ none := by
  cases rule with
  | alternative base candidates =>
    cases base with
    | some base => exact Option.some_ne_none _
    | none =>
      cases candidates with
      | nil => exact Option.some_ne_none _
      | cons first rest =>
        change joinKnown ((first :: rest).map types.of) ≠ none at computed
        change joinKnown ((first :: rest).map types'.of) ≠ none
        rw [ne_eq, joinKnown_eq_none] at computed ⊢
        intro unknown
        apply computed
        intro ty member
        obtain ⟨candidate, inside, rfl⟩ := List.mem_map.mp member
        refine Classical.not_not.mp fun known => more candidate known ?_
        exact unknown _ (List.mem_map_of_mem inside)
  | repetition element separator min max collect =>
    cases collect with
    | text => exact Option.some_ne_none _
    | list =>
      rw [step, ne_eq, Option.map_eq_none_iff] at computed ⊢
      exact more element computed
  | optional child =>
    rw [step, ne_eq, Option.map_eq_none_iff] at computed ⊢
    exact more child computed
  | surround opening inner closing => exact more inner computed
  | sequence ty parts separator => cases ty <;> exact Option.some_ne_none _
  | number kind => cases kind <;> exact Option.some_ne_none _
  | _ => exact Option.some_ne_none _

/-- Refining one estimate leaves all of them justified. -/
theorem refine_justified (justified : Justified rules types) (found : rules[i]? = some rule) :
    Justified rules (refine types i rule).1 := by
  rcases refine_cases types i rule with ⟨same, _⟩ | ⟨new, computed, _, same⟩
  · rw [same]
    exact justified
  · rw [same]
    have more (id : RuleId) (known : types.of id ≠ none) :
        Estimates.of (types.setIfInBounds i (some (raise (types.of ⟨i⟩) new))) id ≠ none :=
      mt unknown_of_raised known
    intro j rule' found' known
    apply step_of_more more
    rw [Estimates.of_setIfInBounds] at known
    split at known
    case isTrue here =>
      obtain ⟨rfl, _⟩ := here
      cases found.symm.trans found'
      rw [computed]
      exact Option.some_ne_none new
    case isFalse => exact justified j rule' found' known

/-- The final estimates are justified. -/
theorem estimates_justified (rules : List Rule) : Justified rules (estimates rules) := by
  refine iterate_keeps (fun types i rule found holds => refine_justified holds found) _ ?_
  intro i rule _ known
  apply absurd known
  rw [Estimates.of, Array.getElem?_replicate, Classical.not_not]
  split <;> rfl

end Inference

/-! ## Types of grammars -/

namespace Grammar

open Inference OutputType

variable {g : Grammar} {id : RuleId} {d : RuleDef}

/-- An alternative without a base has type `any` if one of its candidates has. -/
def Spreads (g : Grammar) : Prop :=
  ∀ (id : RuleId) (d : RuleDef) (candidates : List RuleId), g.get? id = some d →
    d.rule = .alternative none candidates → ∀ candidate ∈ candidates,
    g.outputOf candidate = .any → g.outputOf id = .any

namespace Inferred

/-- The type of a rule absorbs the one computed from the final estimates. -/
theorem absorbs_step (inferred : g.Inferred) (found : g.get? id = some d) {new : OutputType}
    (computed : step g.estimates d.rule = some new) : (g.outputOf id).Absorbs new := by
  have steady : g.estimates.of id = some (raise (g.estimates.of id) new) :=
    estimates_settled _ _ _ (rule_found found) new computed
  rw [inferred.outputOf_eq, steady, Option.getD_some]
  cases g.estimates.of id with
  | none => exact .refl new
  | some old => exact join_absorbs_right old new

/-- A rule whose type cannot be computed has type `any`. -/
theorem any_of_unknown (inferred : g.Inferred) (found : g.get? id = some d)
    (unknown : step g.estimates d.rule = none) : g.outputOf id = .any := by
  have estimate : g.estimates.of id = none :=
    Classical.not_not.mp fun known => estimates_justified _ _ _ (rule_found found) known unknown
  rw [inferred.outputOf_eq, estimate]
  rfl

/-- A rule whose type is computed from that of one child absorbs what is computed. -/
theorem absorbs_map (inferred : g.Inferred) (found : g.get? id = some d) {child : RuleId}
    {f : OutputType → OutputType} (only : step g.estimates d.rule = (g.estimates.of child).map f) :
    (g.outputOf id).Absorbs (f (g.outputOf child)) := by
  rw [inferred.outputOf_eq child]
  cases estimate : g.estimates.of child with
  | some ty => exact inferred.absorbs_step found (only.trans (by rw [estimate]; rfl))
  | none =>
    rw [inferred.any_of_unknown found (only.trans (by rw [estimate]; rfl))]
    exact any_absorbs _

/-- The type of an optional rule absorbs the optional type of its child. -/
theorem absorbs_optional (inferred : g.Inferred) (found : g.get? id = some d) {child : RuleId}
    (rule : d.rule = .optional child) :
    (g.outputOf id).Absorbs (g.outputOf child).optional := by
  apply inferred.absorbs_map found
  rw [rule, step]

/-- The type of a surrounded rule absorbs that of what is surrounded. -/
theorem absorbs_inner (inferred : g.Inferred) (found : g.get? id = some d)
    {opening inner : RuleId} {closing : Option RuleId}
    (rule : d.rule = .surround opening inner closing) :
    (g.outputOf id).Absorbs (g.outputOf inner) := by
  have only : step g.estimates d.rule = (g.estimates.of inner).map fun ty => ty := by
    rw [rule, step, Option.map_id']
  exact inferred.absorbs_map found only

/-- The type of a repetition that gathers a list absorbs lists if its elements have values. -/
theorem absorbs_list (inferred : g.Inferred) (found : g.get? id = some d) {element : RuleId}
    {separator : Option RuleId} {min : Nat} {max : Option Nat}
    (rule : d.rule = .repetition element separator min max .list)
    (values : (g.outputOf element).isVoid = false) : (g.outputOf id).Absorbs .list := by
  have only : step g.estimates d.rule =
      (g.estimates.of element).map fun ty => if ty.isVoid then .void else .list := by
    rw [rule, step]
  have absorbs := inferred.absorbs_map found only
  rwa [values, if_neg Bool.false_ne_true] at absorbs

/-- The type of an alternative without a base absorbs the types of candidates that are known. -/
theorem absorbs_known (inferred : g.Inferred) (found : g.get? id = some d)
    {candidates : List RuleId} (rule : d.rule = .alternative none candidates) {candidate : RuleId}
    (member : candidate ∈ candidates) {ty : OutputType}
    (known : g.estimates.of candidate = some ty) : (g.outputOf id).Absorbs ty := by
  have present : some ty ∈ candidates.map g.estimates.of :=
    List.mem_map.mpr ⟨candidate, member, known⟩
  obtain ⟨new, joined⟩ := exists_joinKnown present
  refine (inferred.absorbs_step found ?_).trans (joinKnown_absorbs joined present)
  rw [rule, ← joined]
  cases candidates with
  | nil => cases member
  | cons first rest => rfl

/-- The type of an alternative without a base absorbs those of its candidates, if `any` spreads. -/
theorem absorbs_candidate (inferred : g.Inferred) (spreads : g.Spreads)
    (found : g.get? id = some d) {candidates : List RuleId}
    (rule : d.rule = .alternative none candidates) {candidate : RuleId}
    (member : candidate ∈ candidates) : (g.outputOf id).Absorbs (g.outputOf candidate) := by
  by_cases unknown : g.outputOf candidate = .any
  · rw [spreads id d candidates found rule candidate member unknown]
    exact any_absorbs _
  · exact inferred.absorbs_known found rule member (inferred.estimate_of_ne unknown)

/-- If every type is determined, `any` spreads: it is joined like other types. -/
theorem spreads_of_known (inferred : g.Inferred)
    (known : ∀ (id : RuleId) (d : RuleDef), g.get? id = some d → g.estimates.of id ≠ none) :
    g.Spreads := by
  intro id d candidates found rule candidate member any
  have inside : candidate.index < g.rules.size := by
    refine inferred.closed id d found candidate ?_
    rw [rule]
    exact member
  obtain ⟨ty, estimate⟩ := Option.ne_none_iff_exists'.mp
    (known candidate g.rules[candidate.index] (Array.getElem?_eq_getElem inside))
  have isAny : ty = .any := by
    rw [inferred.outputOf_eq, estimate] at any
    exact any
  rcases absorbs_iff.mp (inferred.absorbs_known found rule member estimate) with
    same | same | ⟨_, numeric⟩
  · exact same.trans isAny
  · exact same
  · rw [isAny] at numeric
    cases numeric

end Inferred

end Grammar

end Packrat
