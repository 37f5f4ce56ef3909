import Packrat.Grammar.Basic

/-!
# Inferred output types

The passes over the rules come to estimates that a further pass does not change, since each
estimate can be raised three times at most. What these estimates say of a rule is what its program
relies on.

* `Inference.Settled`: no rule raises its estimate any more.
* `Inference.Consistent`: what holds of the estimates after every pass.
* `Grammar.Inferred`: the types of a grammar are those inferred from its rules.

Main statements: `iterate_settled`, `iterate_consistent`, and the properties of `Grammar.Inferred`.
-/

namespace Packrat

namespace Inference

variable {types : Estimates} {rules : List Rule} {rule : Rule} {i : Nat}

/-! ## Raised estimates -/

/-- How far an estimate is raised. -/
def height : Option OutputType → Nat
  | none => 0
  | some .any => 3
  | some .number => 2
  | some _ => 1

/-- No estimate is higher than three steps. -/
theorem height_le (ty : Option OutputType) : height ty ≤ 3 := by
  rcases ty with _ | ty
  · exact Nat.zero_le _
  · cases ty <;> simp [height]

/-- An estimate stays or is raised further. -/
theorem height_raise (old : Option OutputType) (new : OutputType) :
    old = some (raise old new) ∨ height old < height (some (raise old new)) := by
  rcases old with _ | old
  · right
    rw [raise]
    cases new <;> simp [height]
  · by_cases same : old = new
    · left
      rw [raise, OutputType.join, if_pos same]
    · rw [raise, OutputType.join, if_neg same]
      cases old <;> cases new <;> simp [OutputType.isNumeric, height]

/-- What is above a scalar type and a scalar type itself is the same type. -/
theorem join_scalar {a b : OutputType} (scalar : (a.join b).isScalar = true) :
    a.join b = a ∧ a = b := by
  unfold OutputType.join at scalar ⊢
  by_cases same : a = b
  · rw [if_pos same]
    exact ⟨rfl, same⟩
  · rw [if_neg same] at scalar
    split at scalar <;> cases scalar

/-- A type that another one does not raise is above it. -/
theorem scalar_of_raise {old : Option OutputType} {new : OutputType}
    (scalar : (raise old new).isScalar = true) : raise old new = new := by
  rcases old with _ | old
  · rfl
  · obtain ⟨joined, same⟩ := join_scalar scalar
    exact joined.trans same

/-- Types whose join is a scalar are all that scalar. -/
theorem foldl_join_scalar {rest : List OutputType} {first : OutputType}
    (scalar : (rest.foldl OutputType.join first).isScalar = true) :
    ∀ ty ∈ first :: rest, ty = rest.foldl OutputType.join first := by
  induction rest generalizing first with
  | nil => simp
  | cons next rest ih =>
    rw [List.foldl_cons] at scalar ⊢
    have all := ih scalar
    have joined := all _ List.mem_cons_self
    rw [← joined] at scalar
    obtain ⟨isFirst, same⟩ := join_scalar scalar
    intro ty member
    rcases List.mem_cons.mp member with rfl | member
    · rw [← joined, isFirst]
    · rcases List.mem_cons.mp member with rfl | member
      · rw [← joined, isFirst, same]
      · exact all ty (List.mem_cons_of_mem _ member)

/-- Where the join of the known types is scalar, they are all the same. -/
theorem joinKnown_scalar {known : List (Option OutputType)} {new ty : OutputType}
    (joined : joinKnown known = some new) (scalar : new.isScalar = true)
    (member : some ty ∈ known) : ty = new := by
  unfold joinKnown at joined
  have present : ty ∈ known.filterMap id := List.mem_filterMap.mpr ⟨some ty, member, rfl⟩
  cases types : known.filterMap id with
  | nil =>
    rw [types] at present
    cases present
  | cons first rest =>
    rw [types] at joined present
    cases joined
    exact foldl_join_scalar scalar ty present

/-- There is a join if a type is known. -/
theorem exists_joinKnown {known : List (Option OutputType)} {ty : OutputType}
    (member : some ty ∈ known) : ∃ new, joinKnown known = some new := by
  unfold joinKnown
  have present : ty ∈ known.filterMap id := List.mem_filterMap.mpr ⟨some ty, member, rfl⟩
  split
  case h_1 none =>
    rw [none] at present
    cases present
  case h_2 => exact ⟨_, rfl⟩

/-! ## Refining one estimate -/

/-- The estimates after one of them was set. -/
theorem Estimates.of_setIfInBounds (types : Estimates) (i : Nat) (ty : Option OutputType)
    (id : RuleId) : Estimates.of (types.setIfInBounds i ty) id =
      if i = id.index ∧ i < types.size then ty else types.of id := by
  unfold Estimates.of
  rw [Array.getElem?_setIfInBounds]
  by_cases same : i = id.index
  · by_cases inside : i < types.size
    · simp [same, same ▸ inside]
    · have outside : types[id.index]? = none := by
        rw [Array.getElem?_eq_none_iff]
        omega
      simp [same, same ▸ inside]
  · simp [same]

/-- The rule does not raise its estimate. -/
def Steady (types : Estimates) (i : Nat) (rule : Rule) : Prop :=
  ∀ new, step types rule = some new → types.of ⟨i⟩ = some (raise (types.of ⟨i⟩) new)

/-- Refining an estimate changes nothing or raises it. -/
theorem refine_cases (types : Estimates) (i : Nat) (rule : Rule) :
    (refine types i rule = (types, false) ∧ Steady types i rule) ∨
    ∃ new, step types rule = some new ∧
      height (types.of ⟨i⟩) < height (some (raise (types.of ⟨i⟩) new)) ∧
      refine types i rule =
        (types.setIfInBounds i (some (raise (types.of ⟨i⟩) new)), true) := by
  unfold refine Steady
  cases computed : step types rule with
  | none => exact .inl ⟨rfl, by simp⟩
  | some new =>
    dsimp only
    change (if types.of ⟨i⟩ = some (raise (types.of ⟨i⟩) new) then _ else _) = _ ∧ _ ∨
      ∃ new', _ ∧ _ ∧ (if types.of ⟨i⟩ = some (raise (types.of ⟨i⟩) new) then _ else _) = _
    by_cases same : types.of ⟨i⟩ = some (raise (types.of ⟨i⟩) new)
    · left
      refine ⟨if_pos same, fun new' equal => ?_⟩
      cases equal
      exact same
    · right
      refine ⟨new, rfl, ?_, if_neg same⟩
      exact (height_raise _ new).resolve_left same

/-- What refining one estimate keeps, a pass keeps. -/
theorem passFrom_keeps {P : Estimates → Prop} {changed : Bool}
    (keeps : ∀ (types : Estimates) (k : Nat) (rule : Rule), rules[k]? = some rule → P types →
      P (refine types (i + k) rule).1) (holds : P types) :
    P (passFrom types changed i rules).1 := by
  induction rules generalizing types changed i with
  | nil => exact holds
  | cons rule rest ih =>
    refine ih (fun types k rule found => ?_) (keeps types 0 rule rfl holds)
    have next := keeps types (k + 1) rule found
    rwa [show i + (k + 1) = i + 1 + k by omega] at next

/-- One more pass, and others only if it has changed anything. -/
theorem iterate_succ (rules : List Rule) (passes : Nat) (types : Estimates) :
    iterate rules (passes + 1) types =
      if (pass rules types).2 then iterate rules passes (pass rules types).1
      else (pass rules types).1 := rfl

/-- What refining one estimate keeps, all passes keep. -/
theorem iterate_keeps {P : Estimates → Prop} (keeps : ∀ (types : Estimates) (i : Nat)
      (rule : Rule), rules[i]? = some rule → P types → P (refine types i rule).1)
    (passes : Nat) (holds : P types) : P (iterate rules passes types) := by
  induction passes generalizing types with
  | zero => exact holds
  | succ passes ih =>
    have after : P (pass rules types).1 := by
      refine passFrom_keeps (fun types k rule found => ?_) holds
      rw [Nat.zero_add]
      exact keeps types k rule found
    rw [iterate_succ]
    split
    · exact ih after
    · exact after

/-! ## The last pass -/

/-- No rule raises its estimate any more. -/
def Settled (rules : List Rule) (types : Estimates) : Prop :=
  ∀ (i : Nat) (rule : Rule), rules[i]? = some rule → Steady types i rule

/-- How often estimates can still be raised. -/
def slack (types : Estimates) : Nat :=
  types.toList.foldr (fun ty rest => 3 - height ty + rest) 0

/-- Raising an estimate takes up slack. -/
theorem slack_raise {old new : Option OutputType} (there : (types[i]?).join = old)
    (inside : i < types.size) (raised : height old < height new) :
    slack (types.setIfInBounds i new) < slack types := by
  obtain ⟨types⟩ := types
  unfold slack
  simp only [List.setIfInBounds_toArray, List.getElem?_toArray, List.size_toArray] at *
  induction types generalizing i with
  | nil => simp at inside
  | cons first rest ih =>
    cases i with
    | zero =>
      have le := height_le new
      simp only [List.getElem?_cons_zero, Option.join_some] at there
      simp only [List.set_cons_zero, List.foldr_cons]
      rw [there]
      omega
    | succ i =>
      have less := ih (by simpa using there) (by simpa using inside)
      simp only [List.set_cons_succ, List.foldr_cons]
      omega

/-- A pass takes up slack if it changes anything. -/
theorem passFrom_slack {changed : Bool} (inside : i + rules.length ≤ types.size) :
    (passFrom types changed i rules).1.size = types.size ∧
      slack (passFrom types changed i rules).1 ≤ slack types ∧
      ((passFrom types changed i rules).2 = true → changed = true ∨
        slack (passFrom types changed i rules).1 < slack types) := by
  induction rules generalizing types changed i with
  | nil => exact ⟨rfl, Nat.le_refl _, .inl⟩
  | cons rule rest ih =>
    rw [List.length_cons] at inside
    rw [passFrom]
    rcases refine_cases types i rule with ⟨same, _⟩ | ⟨new, _, raised, same⟩
    · rw [same]
      dsimp only
      rw [Bool.or_false]
      exact ih (by omega)
    · rw [same]
      dsimp only
      have here : i < types.size := by omega
      have less := slack_raise rfl here raised
      have size : (types.setIfInBounds i (some (raise (types.of ⟨i⟩) new))).size = types.size :=
        Array.size_setIfInBounds
      obtain ⟨sizes, le, _⟩ := @ih (types.setIfInBounds i (some (raise (types.of ⟨i⟩) new))) (i + 1)
        (changed || true) (by rw [size]; omega)
      exact ⟨sizes.trans size, Nat.le_trans le (Nat.le_of_lt less),
        fun _ => .inr (Nat.lt_of_le_of_lt le less)⟩

/-- A pass that changes nothing finds every estimate steady. -/
theorem passFrom_steady {changed : Bool} (unchanged : (passFrom types changed i rules).2 = false) :
    changed = false ∧ (passFrom types changed i rules).1 = types ∧
      ∀ (k : Nat) (rule : Rule), rules[k]? = some rule → Steady types (i + k) rule := by
  induction rules generalizing types changed i with
  | nil => exact ⟨unchanged, rfl, by simp⟩
  | cons rule rest ih =>
    rw [passFrom] at unchanged ⊢
    rcases refine_cases types i rule with ⟨same, steady⟩ | ⟨_, _, _, same⟩
    · rw [same] at unchanged ⊢
      dsimp only at unchanged ⊢
      obtain ⟨before, types', later⟩ := ih unchanged
      rw [Bool.or_false] at before
      refine ⟨before, types', fun k rule' found => ?_⟩
      cases k with
      | zero =>
        cases found
        exact steady
      | succ k =>
        have next := later k rule' found
        rwa [show i + 1 + k = i + (k + 1) by omega] at next
    · rw [same] at unchanged
      have before := (ih unchanged).1
      rw [Bool.or_true] at before
      cases before

/-- Enough passes come to settled estimates. -/
theorem iterate_settled {passes : Nat} (size : types.size = rules.length)
    (enough : slack types < passes) : Settled rules (iterate rules passes types) := by
  induction passes generalizing types with
  | zero => omega
  | succ passes ih =>
    have inside : 0 + rules.length ≤ types.size := by omega
    obtain ⟨sizes, _, less⟩ := @passFrom_slack types rules 0 false inside
    rw [iterate_succ]
    split
    case isTrue changed =>
      have less := (less changed).resolve_left Bool.false_ne_true
      exact ih (sizes.trans size) (Nat.lt_of_lt_of_le less (Nat.le_of_lt_succ enough))
    case isFalse unchanged =>
      rw [Bool.not_eq_true] at unchanged
      obtain ⟨_, same, steady⟩ := passFrom_steady unchanged
      rw [pass, same]
      intro i rule found
      have here := steady i rule found
      rwa [Nat.zero_add] at here

/-- Before the first pass each rule has three steps of slack. -/
theorem slack_replicate (n : Nat) : slack (Array.replicate n none) = 3 * n := by
  unfold slack
  rw [Array.toList_replicate]
  induction n with
  | zero => rfl
  | succ n ih =>
    rw [List.replicate_succ, List.foldr_cons, ih, height]
    omega

/-- The final estimates are settled. -/
theorem estimates_settled (rules : List Rule) : Settled rules (estimates rules) := by
  refine iterate_settled Array.size_replicate ?_
  rw [slack_replicate]
  exact Nat.lt_succ_self _

/-! ## What every pass keeps -/

/-- The type of a rule is the one that does not depend on its children, if there is one. -/
def FixedType (rule : Rule) (output : OutputType) : Prop :=
  ∀ ty, (∀ types, step types rule = some ty) → output = ty

/-- The estimates of some rules are what they must be for the programs of the rules. -/
structure Consistent (rules : List Rule) (types : Estimates) : Prop where
  fixed : ∀ (i : Nat) (rule : Rule), rules[i]? = some rule → ∀ ty, types.of ⟨i⟩ = some ty →
    FixedType rule ty
  optional : ∀ (i : Nat) (child : RuleId), rules[i]? = some (.optional child) →
    ∀ ty, types.of ⟨i⟩ = some ty → ty.isScalar = false
  list : ∀ (i : Nat) (element : RuleId) (separator : Option RuleId) (min : Nat)
    (max : Option Nat), rules[i]? = some (.repetition element separator min max .list) →
    (types.of element = none → types.of ⟨i⟩ = none) ∧
      (types.of element = some .void → ∀ ty, types.of ⟨i⟩ = some ty → ty = .void)

/-- Where an estimate is raised to void, it was unknown or void. -/
theorem raise_void {old : Option OutputType} {new : OutputType} (isVoid : raise old new = .void) :
    new = .void ∧ (old = none ∨ old = some .void) := by
  rcases old with _ | old
  · exact ⟨isVoid, .inl rfl⟩
  · rw [raise, OutputType.join] at isVoid
    by_cases same : old = new
    · rw [if_pos same] at isVoid
      exact ⟨same ▸ isVoid, .inr (congrArg some isVoid)⟩
    · rw [if_neg same] at isVoid
      split at isVoid <;> cases isVoid

/-- An optional occurrence is no scalar. -/
theorem optional_not_scalar (ty : OutputType) : ty.optional.isScalar = false := by
  cases ty <;> rfl

section

variable {new : OutputType} {id : RuleId}

/-- Of some rules, only that of the estimate raised has another estimate now. -/
theorem of_raised (found : rules[i]? = some rule) {j : Nat} {rule' : Rule}
    (found' : rules[j]? = some rule') {ty : OutputType}
    (there : Estimates.of (types.setIfInBounds i (some (raise (types.of ⟨i⟩) new))) ⟨j⟩ =
      some ty) :
    types.of ⟨j⟩ = some ty ∨ (rule' = rule ∧ j = i ∧ raise (types.of ⟨i⟩) new = ty) := by
  rw [Estimates.of_setIfInBounds] at there
  split at there
  case isTrue here =>
    obtain ⟨rfl, _⟩ := here
    cases found.symm.trans found'
    exact .inr ⟨rfl, rfl, Option.some.inj there⟩
  case isFalse => exact .inl there

/-- An estimate that is unknown now was so before. -/
theorem unknown_of_raised
    (there : Estimates.of (types.setIfInBounds i (some (raise (types.of ⟨i⟩) new))) id = none) :
    types.of id = none := by
  rw [Estimates.of_setIfInBounds] at there
  split at there
  case isTrue => cases there
  case isFalse => exact there

/-- An estimate that is void now was unknown or void before. -/
theorem void_of_raised
    (there : Estimates.of (types.setIfInBounds i (some (raise (types.of ⟨i⟩) new))) id =
      some .void) : types.of id = none ∨ types.of id = some .void := by
  rw [Estimates.of_setIfInBounds] at there
  split at there
  case isTrue here =>
    obtain ⟨rfl, _⟩ := here
    exact (raise_void (Option.some.inj there)).2
  case isFalse => exact .inr there

/-- A type that does not depend on children is computed each time. -/
theorem raise_of_fixed (consistent : Consistent rules types) (found : rules[i]? = some rule)
    (computed : step types rule = some new) : FixedType rule (raise (types.of ⟨i⟩) new) := by
  intro ty always
  have same : new = ty := Option.some.inj (computed.symm.trans (always types))
  cases old : types.of ⟨i⟩ with
  | none => exact same
  | some ty' =>
    rw [raise, consistent.fixed i rule found ty' old ty always, same, OutputType.join, if_pos rfl]

/-- What is computed for an optional occurrence is no scalar, and no join makes it one. -/
theorem raise_of_optional {child : RuleId} {old : Option OutputType}
    (computed : step types (.optional child) = some new) : (raise old new).isScalar = false := by
  obtain ⟨childType, _, same⟩ := Option.map_eq_some_iff.mp computed
  cases scalar : (raise old new).isScalar with
  | false => rfl
  | true =>
    rw [scalar_of_raise scalar, ← same, optional_not_scalar] at scalar
    cases scalar

/-- Lists of an element that is unknown or void are so, with one estimate raised. -/
theorem list_of_raised (consistent : Consistent rules types) (found : rules[i]? = some rule)
    (computed : step types rule = some new) {j : Nat} {element : RuleId}
    {separator : Option RuleId} {min : Nat} {max : Option Nat}
    (found' : rules[j]? = some (.repetition element separator min max .list)) :
    (Estimates.of (types.setIfInBounds i (some (raise (types.of ⟨i⟩) new))) element = none →
      Estimates.of (types.setIfInBounds i (some (raise (types.of ⟨i⟩) new))) ⟨j⟩ = none) ∧
    (Estimates.of (types.setIfInBounds i (some (raise (types.of ⟨i⟩) new))) element =
        some .void →
      ∀ ty, Estimates.of (types.setIfInBounds i (some (raise (types.of ⟨i⟩) new))) ⟨j⟩ =
        some ty → ty = .void) := by
  obtain ⟨unknown, void⟩ := consistent.list j element separator min max found'
  refine ⟨fun there => ?_, fun there ty here => ?_⟩
  · have known := unknown_of_raised there
    cases here : Estimates.of (types.setIfInBounds i (some (raise (types.of ⟨i⟩) new))) ⟨j⟩ with
    | none => rfl
    | some ty =>
      rcases of_raised found found' here with old | ⟨rfl, rfl, rfl⟩
      · rw [unknown known] at old
        cases old
      · rw [step, known] at computed
        cases computed
  · rcases of_raised found found' here with old | ⟨rfl, rfl, rfl⟩
    · rcases void_of_raised there with known | known
      · rw [unknown known] at old
        cases old
      · exact void known ty old
    · rcases void_of_raised there with known | known
      · rw [step, known] at computed
        cases computed
      · rw [step, known] at computed
        cases computed
        cases old : types.of ⟨j⟩ with
        | none => rfl
        | some ty =>
          rw [void known ty old]
          rfl

end

/-- Refining one estimate leaves all of them consistent. -/
theorem refine_consistent (consistent : Consistent rules types) (found : rules[i]? = some rule) :
    Consistent rules (refine types i rule).1 := by
  rcases refine_cases types i rule with ⟨same, _⟩ | ⟨new, computed, _, same⟩
  · rw [same]
    exact consistent
  rw [same]
  constructor
  case fixed =>
    intro j rule' found' ty there
    rcases of_raised found found' there with old | ⟨rfl, rfl, rfl⟩
    · exact consistent.fixed j rule' found' ty old
    · exact raise_of_fixed consistent found computed
  case optional =>
    intro j child found' ty there
    rcases of_raised found found' there with old | ⟨rfl, rfl, rfl⟩
    · exact consistent.optional j child found' ty old
    · exact raise_of_optional computed
  case list => exact fun j element separator min max => list_of_raised consistent found computed

/-- The final estimates are consistent. -/
theorem estimates_consistent (rules : List Rule) : Consistent rules (estimates rules) := by
  have unknown (id : RuleId) : Estimates.of (Array.replicate rules.length none) id = none := by
    unfold Estimates.of
    rw [Array.getElem?_replicate]
    split <;> rfl
  refine iterate_keeps (fun types i rule found holds => refine_consistent holds found) _ ?_
  constructor
  · intro i rule _ ty there
    rw [unknown] at there
    cases there
  · intro i child _ ty there
    rw [unknown] at there
    cases there
  · intro i element _ _ _ _
    refine ⟨fun _ => unknown _, fun there => ?_⟩
    rw [unknown] at there
    cases there

end Inference

/-! ## Grammars with inferred types -/

/-- The types are those inferred from the rules, and rules refer to rules only. -/
structure Grammar.Inferred (g : Grammar) : Prop where
  outputs : g.outputs = inferOutputs (g.rules.toList.map RuleDef.rule)
  closed : ∀ (id : RuleId) (d : RuleDef), g.get? id = some d → ∀ child ∈ d.rule.children,
    child.index < g.size

namespace GrammarDraft

/-- A rule that passes the check has children inside the grammar. -/
theorem check_closed {count i : Nat} {p : PendingRule} {d : RuleDef}
    (checked : check count i p = .ok d) : ∀ child ∈ d.rule.children, child.index < count := by
  unfold check at checked
  dsimp only at checked
  split at checked
  · cases checked
  · split at checked
    · cases checked
    · case h_2 unknown =>
      cases checked
      intro child member
      have inside := List.find?_eq_none.mp unknown child member
      simpa using inside

/-- Rules that pass the check have children inside the grammar, and none of them is lost. -/
theorem checkFrom_closed {count i : Nat} {done rules : Array RuleDef} {pending : List PendingRule}
    (before : ∀ d ∈ done, ∀ child ∈ d.rule.children, child.index < count)
    (checked : checkFrom count i done pending = .ok rules) :
    (∀ d ∈ rules, ∀ child ∈ d.rule.children, child.index < count) ∧
      rules.size = done.size + pending.length := by
  induction pending generalizing i done with
  | nil =>
    cases checked
    exact ⟨before, rfl⟩
  | cons p rest ih =>
    rw [checkFrom] at checked
    cases one : check count i p with
    | error e =>
      rw [one] at checked
      cases checked
    | ok d =>
      rw [one] at checked
      obtain ⟨closed, size⟩ := ih (fun d' member => by
        rcases Array.mem_push.mp member with member | rfl
        · exact before d' member
        · exact check_closed one) checked
      refine ⟨closed, ?_⟩
      rw [size, Array.size_push, List.length_cons]
      omega

/-- The grammar of a draft has its types inferred from its rules. -/
theorem build_inferred {d : GrammarDraft} {g : Grammar} (built : d.build = .ok g) :
    g.Inferred := by
  unfold build at built
  split at built
  · cases built
  · cases checked : checkFrom d.rules.size 0 #[] d.rules.toList with
    | error e =>
      rw [checked] at built
      cases built
    | ok rules =>
      rw [checked] at built
      cases built
      obtain ⟨closed, size⟩ := checkFrom_closed (by simp) checked
      refine ⟨rfl, fun id def' found child member => ?_⟩
      have inside := closed def' (Array.mem_of_getElem? found) child member
      rw [Grammar.size, size]
      simpa using inside

end GrammarDraft

namespace Grammar

open Inference

variable {g : Grammar} {id : RuleId} {d : RuleDef}

/-- The estimates that the types of the grammar were read off. -/
def estimates (g : Grammar) : Estimates :=
  Inference.estimates (g.rules.toList.map RuleDef.rule)

namespace Inferred

/-- The type of a rule is its final estimate, or `any` if there is none. -/
theorem outputOf_eq (inferred : g.Inferred) (id : RuleId) :
    g.outputOf id = (g.estimates.of id).getD .any := by
  rw [outputOf, outputType?, inferred.outputs, inferOutputs, Array.getElem?_map, Estimates.of,
    Grammar.estimates]
  cases (Inference.estimates (g.rules.toList.map RuleDef.rule))[id.index]? <;> rfl

/-- A type other than `any` is an estimate. -/
theorem estimate_of_ne (inferred : g.Inferred) (known : g.outputOf id ≠ .any) :
    g.estimates.of id = some (g.outputOf id) := by
  rw [inferred.outputOf_eq] at known ⊢
  cases estimate : g.estimates.of id with
  | none =>
    rw [estimate] at known
    exact absurd rfl known
  | some ty => rfl

/-- The estimate of a rule with a scalar type is that type. -/
theorem estimate_of_scalar (inferred : g.Inferred) (scalar : (g.outputOf id).isScalar = true) :
    g.estimates.of id = some (g.outputOf id) := by
  refine inferred.estimate_of_ne fun any => ?_
  rw [any] at scalar
  cases scalar

/-- The rules that inference sees are those of the grammar. -/
theorem rule_found (found : g.get? id = some d) :
    (g.rules.toList.map RuleDef.rule)[id.index]? = some d.rule := by
  rw [List.getElem?_map, Array.getElem?_toList]
  exact congrArg _ found

/-- A rule has the type that its children have no part in, if there is one. -/
theorem fixedType (inferred : g.Inferred) (found : g.get? id = some d) :
    FixedType d.rule (g.outputOf id) := by
  intro ty always
  have steady := estimates_settled _ _ _ (rule_found found) ty (always _)
  have estimate : g.estimates.of id = some _ := steady
  rw [inferred.outputOf_eq, estimate]
  exact (estimates_consistent _).fixed _ _ (rule_found found) _ steady ty always

/-- A rule that takes over the value of one of some children has its type if both are scalars. -/
theorem agrees_of_step (inferred : g.Inferred) (found : g.get? id = some d) {child : RuleId}
    (above : ∀ ty, g.estimates.of child = some ty → ∃ new, step g.estimates d.rule = some new ∧
      (new.isScalar = true → ty = new))
    (scalar : (g.outputOf id).isScalar = true) (childScalar : (g.outputOf child).isScalar = true) :
    g.outputOf child = g.outputOf id := by
  obtain ⟨new, computed, same⟩ := above _ (inferred.estimate_of_scalar childScalar)
  have steady : g.estimates.of id = some (raise (g.estimates.of id) new) :=
    estimates_settled _ _ _ (rule_found found) new computed
  have estimate := (inferred.estimate_of_scalar scalar).symm.trans steady
  have raised := Option.some.inj estimate
  have isNew : g.outputOf id = new := by
    rw [raised] at scalar ⊢
    exact scalar_of_raise scalar
  rw [isNew] at scalar ⊢
  exact same scalar

/-- A candidate has the type of an alternative if both are scalars. -/
theorem candidate_agrees (inferred : g.Inferred) (found : g.get? id = some d)
    {base : Option String} {candidates : List RuleId} (rule : d.rule = .alternative base candidates)
    {candidate : RuleId} (member : candidate ∈ candidates)
    (scalar : (g.outputOf id).isScalar = true)
    (childScalar : (g.outputOf candidate).isScalar = true) :
    g.outputOf candidate = g.outputOf id := by
  cases base with
  | some base =>
    have object := inferred.fixedType found (.object base) (fun types => by rw [rule]; rfl)
    rw [object] at scalar
    cases scalar
  | none =>
    refine inferred.agrees_of_step found (fun ty estimate => ?_) scalar childScalar
    have present : some ty ∈ candidates.map g.estimates.of :=
      List.mem_map.mpr ⟨candidate, member, estimate⟩
    obtain ⟨new, joined⟩ := exists_joinKnown present
    refine ⟨new, ?_, fun scalar => joinKnown_scalar joined scalar present⟩
    rw [rule, ← joined]
    cases candidates with
    | nil => cases member
    | cons first rest => rfl

/-- What is surrounded has the type of the whole if both are scalars. -/
theorem inner_agrees (inferred : g.Inferred) (found : g.get? id = some d)
    {opening inner : RuleId} {closing : Option RuleId}
    (rule : d.rule = .surround opening inner closing)
    (scalar : (g.outputOf id).isScalar = true) (childScalar : (g.outputOf inner).isScalar = true) :
    g.outputOf inner = g.outputOf id := by
  refine inferred.agrees_of_step found (fun ty estimate => ⟨ty, ?_, fun _ => rfl⟩) scalar
    childScalar
  rw [rule, step, estimate]

/-- An optional rule is no scalar. -/
theorem optional_not_scalar (inferred : g.Inferred) (found : g.get? id = some d) {child : RuleId}
    (rule : d.rule = .optional child) : (g.outputOf id).isScalar = false := by
  rw [inferred.outputOf_eq]
  cases estimate : g.estimates.of id with
  | none => rfl
  | some ty =>
    have found' := rule_found found
    rw [rule] at found'
    exact (estimates_consistent _).optional _ _ found' ty estimate

/-- A repetition that gathers a list has no value if its elements have none, and is no scalar. -/
theorem list_type (inferred : g.Inferred) (found : g.get? id = some d) {element : RuleId}
    {separator : Option RuleId} {min : Nat} {max : Option Nat}
    (rule : d.rule = .repetition element separator min max .list) :
    if g.outputOf element = .void then g.outputOf id = .void
    else (g.outputOf id).isVoid = false ∧ (g.outputOf id).isScalar = false := by
  have found' := rule_found found
  have settled := estimates_settled _ _ _ found'
  rw [rule] at found' settled
  obtain ⟨unknown, void⟩ := (estimates_consistent _).list _ _ _ _ _ found'
  have raised {ty new : OutputType} (here : g.estimates.of element = some ty)
      (computed : (if ty.isVoid then OutputType.void else .list) = new) :
      g.estimates.of id = some (raise (g.estimates.of id) new) := by
    refine settled new ?_
    rw [step]
    exact (congrArg _ here).trans (congrArg some computed)
  split
  case isTrue isVoid =>
    have here : g.estimates.of element = some .void := by
      rw [inferred.estimate_of_ne (by rw [isVoid]; simp), isVoid]
    rw [inferred.outputOf_eq, raised here rfl]
    exact void here _ (raised here rfl)
  case isFalse notVoid =>
    rw [inferred.outputOf_eq]
    cases here : g.estimates.of element with
    | none =>
      -- While the element has no type, the repetition has none either, and becomes `any`.
      rw [show g.estimates.of id = none from unknown here]
      exact ⟨rfl, rfl⟩
    | some ty =>
      have listed : (if ty.isVoid then OutputType.void else .list) = .list := by
        rw [inferred.outputOf_eq, here] at notVoid
        cases ty <;> first | rfl | exact absurd rfl notVoid
      rw [raised here listed, Option.getD_some]
      constructor
      · cases isVoid : (raise (g.estimates.of id) .list).isVoid with
        | false => rfl
        | true =>
          have same : raise (g.estimates.of id) .list = .void := by
            generalize raise (g.estimates.of id) .list = ty at isVoid
            cases ty <;> first | rfl | cases isVoid
          cases (raise_void same).1
      · cases scalar : (raise (g.estimates.of id) .list).isScalar with
        | false => rfl
        | true =>
          rw [scalar_of_raise scalar] at scalar
          cases scalar

end Inferred

end Grammar

end Packrat
