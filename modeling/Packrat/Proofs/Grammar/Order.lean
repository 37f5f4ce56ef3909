import Mathlib.Logic.Equiv.Basic
import Mathlib.Logic.Relation
import Packrat.Proofs.Grammar.Absorption

/-!
# The order of the rules

The passes go over the rules in order and join everything that they come across to the estimates, so
a type could depend on where its rule stands. What can flow into a type at all does not: a type is
drawn by a rule of its own, or through the rules that take over the types of their children. An
estimate is always a join of such types. It is the join of all of them, whatever the order, unless
an estimate that is still low keeps a rule from drawing what it draws later. Only a repetition that
gathers a list can be kept from it: it has no value while its element is not known to have one.

* `Rule.rename`: the rule with other identities for its children.
* `Inference.Draws`: the types that flow into the type of a rule.
* `Inference.Joined`: a join of types of some kind.
* `Inference.Mixed`: a repetition that gathers a list of elements with values and without.
* `Inference.Unmixed`: no such repetition has a part in the type of the rule.
* `Inference.Renamed`: the same rules in another order.

Main statements: `estimates_joined`, `estimates_absorb`, `unmixed_of_known`, and
`inferOutputs_renamed`.
-/

namespace Packrat

/-- The rule with the identities of its children renamed. -/
def Rule.rename (f : RuleId → RuleId) : Rule → Rule
  | .sequence ty parts separator =>
    .sequence ty (parts.map fun part => { part with rule := f part.rule }) (separator.map f)
  | .alternative base candidates => .alternative base (candidates.map f)
  | .repetition element separator min max collect =>
    .repetition (f element) (separator.map f) min max collect
  | .optional child => .optional (f child)
  | .lookAhead child => .lookAhead (f child)
  | .not child => .not (f child)
  | .surround opening inner closing => .surround (f opening) (f inner) (closing.map f)
  | .capture child => .capture (f child)
  | rule => rule

/-- The children whose types the type of the rule is computed from. -/
def Rule.followed : Rule → List RuleId
  | .alternative none candidates => candidates
  | .repetition element _ _ _ .list => [element]
  | .optional child => [child]
  | .surround _ inner _ => [inner]
  | _ => []

/-- Renaming rules renames the children that a rule follows. -/
theorem Rule.followed_rename (f : RuleId → RuleId) (rule : Rule) :
    (rule.rename f).followed = rule.followed.map f := by
  cases rule with
  | alternative base candidates => cases base <;> rfl
  | repetition element separator min max collect => cases collect <;> rfl
  | _ => rfl

/-- Renaming there and back. -/
theorem Rule.rename_rename {f back : RuleId → RuleId} (inverse : ∀ id, back (f id) = id)
    (rule : Rule) : (rule.rename f).rename back = rule := by
  cases rule <;> simp [rename, inverse, Function.comp_def]

namespace OutputType

variable {a b c : OutputType}

/-- The join of two types is the least one that absorbs both. -/
theorem Absorbs.join (left : c.Absorbs a) (right : c.Absorbs b) : c.Absorbs (a.join b) := by
  unfold OutputType.join
  split
  case isTrue => exact left
  case isFalse differs =>
    rw [absorbs_iff] at left right
    rcases left with rfl | rfl | ⟨rfl, numeric⟩
    · rcases right with same | rfl | ⟨rfl, numeric⟩
      · exact absurd same differs
      · exact any_absorbs _
      · rw [numeric]
        exact .refl _
    · exact any_absorbs _
    · rcases right with rfl | same | ⟨_, numeric'⟩
      · rw [numeric]
        exact .refl _
      · cases same
      · rw [numeric, numeric']
        exact .refl _

/-- Types that absorb each other are the same. -/
theorem Absorbs.antisymm (one : a.Absorbs b) (other : b.Absorbs a) : a = b := by
  rw [absorbs_iff] at one other
  rcases one with same | rfl | ⟨rfl, numeric⟩
  · exact same
  · rcases other with same | same | ⟨_, numeric⟩
    · exact same.symm
    · exact same.symm
    · cases numeric
  · rcases other with same | rfl | ⟨rfl, _⟩
    · exact same.symm
    · cases numeric
    · rfl

/-- What absorbs a type absorbs it where both are optional. -/
theorem Absorbs.optional (absorbs : a.Absorbs b) : a.optional.Absorbs b.optional := by
  rcases absorbs_iff.mp absorbs with rfl | rfl | ⟨rfl, _⟩
  · exact .refl _
  · exact any_absorbs _
  · exact any_absorbs _

/-- No type with values is absorbed by void. -/
theorem Absorbs.isVoid (absorbs : a.Absorbs b) (void : a.isVoid = true) : b.isVoid = true := by
  rcases absorbs_iff.mp absorbs with rfl | rfl | ⟨rfl, _⟩
  · exact void
  · cases void
  · cases void

/-- A join is void if both types are. -/
theorem isVoid_join (a b : OutputType) : (a.join b).isVoid = (a.isVoid && b.isVoid) := by
  unfold OutputType.join
  by_cases same : a = b
  · rw [if_pos same, same, Bool.and_self]
  · rw [if_neg same]
    cases a <;> cases b <;> simp_all [isVoid, isNumeric]

/-- Making a join optional joins the optional types. -/
theorem optional_join (a b : OutputType) :
    (a.join b).optional = a.optional.join b.optional := by
  by_cases same : a = b
  · rw [same, OutputType.join, if_pos rfl, OutputType.join, if_pos rfl]
  · rw [OutputType.join, if_neg same]
    cases a <;> cases b <;> simp_all [OutputType.optional, OutputType.join, isNumeric]

/-- The type of a list of elements of a type; nothing if they have no values. -/
def listed (element : OutputType) : OutputType := if element.isVoid then .void else .list

end OutputType

namespace Inference

variable {types : Estimates} {rules rules' : List Rule} {rule : Rule} {id : RuleId} {i : Nat}

/-! ## What flows into a type -/

/-- A type flows into that of a rule: it is the one that the rule has before its children have
theirs, or it comes from a child whose type the rule takes over. -/
inductive Draws (rules : List Rule) : RuleId → OutputType → Prop
  | own {id : RuleId} {rule : Rule} {ty : OutputType} (found : rules[id.index]? = some rule)
      (computed : step #[] rule = some ty) : Draws rules id ty
  | candidate {id child : RuleId} {candidates : List RuleId} {ty : OutputType}
      (found : rules[id.index]? = some (.alternative none candidates))
      (member : child ∈ candidates) (drawn : Draws rules child ty) : Draws rules id ty
  | optional {id child : RuleId} {ty : OutputType}
      (found : rules[id.index]? = some (.optional child)) (drawn : Draws rules child ty) :
      Draws rules id ty.optional
  | inner {id opening inner : RuleId} {closing : Option RuleId} {ty : OutputType}
      (found : rules[id.index]? = some (.surround opening inner closing))
      (drawn : Draws rules inner ty) : Draws rules id ty
  | listed {id element : RuleId} {separator : Option RuleId} {min : Nat} {max : Option Nat}
      {ty : OutputType}
      (found : rules[id.index]? = some (.repetition element separator min max .list))
      (drawn : Draws rules element ty) : Draws rules id ty.listed

/-- A join of types of which each satisfies a property. -/
inductive Joined (P : OutputType → Prop) : OutputType → Prop
  | one {ty : OutputType} (holds : P ty) : Joined P ty
  | join {a b : OutputType} (left : Joined P a) (right : Joined P b) : Joined P (a.join b)

namespace Joined

variable {P Q : OutputType → Prop} {a b c : OutputType}

/-- What absorbs the types that are joined absorbs their join. -/
theorem absorbed (joined : Joined P a) (absorbs : ∀ ty, P ty → c.Absorbs ty) : c.Absorbs a := by
  induction joined with
  | one holds => exact absorbs _ holds
  | join _ _ left right => exact left.join right

/-- There is one join only that absorbs all types with a property. -/
theorem unique (one : Joined P a) (other : Joined P b) (all : ∀ ty, P ty → a.Absorbs ty)
    (all' : ∀ ty, P ty → b.Absorbs ty) : a = b :=
  (other.absorbed all).antisymm (one.absorbed all')

/-- A join of types of one kind is one of a wider kind. -/
theorem mono (joined : Joined P a) (weaker : ∀ ty, P ty → Q ty) : Joined Q a := by
  induction joined with
  | one holds => exact .one (weaker _ holds)
  | join _ _ left right => exact .join left right

/-- A join has values if and only if one of the joined types has. -/
theorem exists_alike (joined : Joined P a) : ∃ ty, P ty ∧ ty.isVoid = a.isVoid := by
  induction joined with
  | one holds => exact ⟨_, holds, rfl⟩
  | @join a b _ _ left right =>
    rw [OutputType.isVoid_join]
    cases same : b.isVoid with
    | true => rwa [Bool.and_true]
    | false =>
      rw [Bool.and_false]
      rwa [same] at right

/-- Optional types are joined as the types themselves are. -/
theorem optional (joined : Joined P a) (each : ∀ ty, P ty → Q ty.optional) :
    Joined Q a.optional := by
  induction joined with
  | one holds => exact .one (each _ holds)
  | join _ _ left right =>
    rw [OutputType.optional_join]
    exact .join left right

end Joined

/-- The repetition gathers lists, and its element draws types with values as well as void. -/
def Mixed (rules : List Rule) (id : RuleId) : Prop :=
  ∃ element separator min max,
    rules[id.index]? = some (.repetition element separator min max .list) ∧
    ∃ empty valued : OutputType, Draws rules element empty ∧ empty.isVoid = true ∧
      Draws rules element valued ∧ valued.isVoid = false

/-- The type of the rule is computed from that of the child. -/
def Follows (rules : List Rule) (id child : RuleId) : Prop :=
  ∃ rule, rules[id.index]? = some rule ∧ child ∈ rule.followed

/-- The type of the rule is computed without the types of mixed repetitions. -/
def Unmixed (rules : List Rule) (id : RuleId) : Prop :=
  ∀ other, Relation.ReflTransGen (Follows rules) id other → ¬Mixed rules other

/-- Where the type of the rule is computed from that of a repetition that gathers a list, the final
estimate for the element of the repetition has values if what it absorbs has. -/
def Telling (rules : List Rule) (id : RuleId) : Prop :=
  ∀ other, Relation.ReflTransGen (Follows rules) id other → ∀ element separator min max,
    rules[other.index]? = some (.repetition element separator min max .list) →
    ∀ known ty, (estimates rules).of element = some known → Draws rules element ty →
      known.Absorbs ty → known.isVoid = ty.isVoid

/-- A child that a telling rule follows is telling. -/
theorem Telling.child (telling : Telling rules id) {rule : Rule} {child : RuleId}
    (found : rules[id.index]? = some rule) (member : child ∈ rule.followed) :
    Telling rules child :=
  fun other reached => telling other (.head ⟨rule, found, member⟩ reached)

/-- A type that a rule has before its children have theirs is computed from all estimates. -/
theorem step_own {ty : OutputType} (computed : step #[] rule = some ty) (types : Estimates) :
    step types rule = some ty := by
  cases rule with
  | alternative base candidates =>
    cases base with
    | some base => exact computed
    | none =>
      cases candidates with
      | nil => exact computed
      | cons first rest =>
        have unknown : joinKnown ((first :: rest).map (Estimates.of #[])) = none :=
          joinKnown_eq_none.mpr fun ty member => by
            obtain ⟨_, _, rfl⟩ := List.mem_map.mp member
            rfl
        cases unknown.symm.trans computed
  | repetition element separator min max collect =>
    cases collect with
    | text => exact computed
    | list => cases computed
  | optional child => cases computed
  | surround opening inner closing => cases computed
  | sequence ty parts separator => cases ty <;> exact computed
  | number kind => cases kind <;> exact computed
  | _ => exact computed

/-! ## Estimates are joins -/

/-- The join of known types is a join of what they are joins of. -/
theorem joinKnown_joined {known : List (Option OutputType)} {new : OutputType}
    {P : OutputType → Prop} (each : ∀ ty, some ty ∈ known → Joined P ty)
    (joined : joinKnown known = some new) : Joined P new := by
  have all (ty : OutputType) (present : ty ∈ known.filterMap id) : Joined P ty := by
    obtain ⟨_, member, rfl⟩ := List.mem_filterMap.mp present
    exact each ty member
  unfold joinKnown at joined
  split at joined
  · cases joined
  case h_2 first rest same =>
    cases joined
    rw [same] at all
    clear same
    induction rest generalizing first with
    | nil => exact all first List.mem_cons_self
    | cons next rest ih =>
      refine ih (first.join next) fun ty member => ?_
      rcases List.mem_cons.mp member with rfl | member
      · exact .join (all first List.mem_cons_self)
          (all next (List.mem_cons_of_mem _ List.mem_cons_self))
      · exact all ty (List.mem_cons_of_mem _ (List.mem_cons_of_mem _ member))

/-- Every known estimate is a join of types that the rule draws. -/
def Composed (rules : List Rule) (types : Estimates) : Prop :=
  ∀ (id : RuleId) (ty : OutputType), types.of id = some ty → Joined (Draws rules id) ty

/-- What is computed from such estimates is such a join. -/
theorem step_joined (joined : Composed rules types)
    (found : rules[id.index]? = some rule) {new : OutputType}
    (computed : step types rule = some new) : Joined (Draws rules id) new := by
  cases own : step #[] rule with
  | some ty =>
    cases (step_own own types).symm.trans computed
    exact .one (.own found own)
  | none =>
    cases rule with
    | alternative base candidates =>
      cases base with
      | some base => cases own
      | none =>
        cases candidates with
        | nil => cases own
        | cons first rest =>
          refine joinKnown_joined (fun ty member => ?_) computed
          obtain ⟨candidate, inside, known⟩ := List.mem_map.mp member
          exact (joined candidate ty known).mono fun ty drawn => .candidate found inside drawn
    | repetition element separator min max collect =>
      cases collect with
      | text => cases own
      | list =>
        obtain ⟨ty, known, rfl⟩ := Option.map_eq_some_iff.mp computed
        obtain ⟨drawn, draws, alike⟩ := (joined element ty known).exists_alike
        have listed : Draws rules id drawn.listed := .listed found draws
        rw [OutputType.listed, alike] at listed
        exact .one listed
    | optional child =>
      obtain ⟨ty, known, rfl⟩ := Option.map_eq_some_iff.mp computed
      exact (joined child ty known).optional fun ty drawn => .optional found drawn
    | surround opening inner closing =>
      exact (joined inner new computed).mono fun ty drawn => .inner found drawn
    | sequence ty parts separator => cases ty <;> cases own
    | number kind => cases kind <;> cases own
    | _ => cases own

/-- The final estimates are joins of types that the rules draw. -/
theorem estimates_joined (rules : List Rule) : Composed rules (estimates rules) := by
  have keeps (types : Estimates) (i : Nat) (rule : Rule) (found : rules[i]? = some rule)
      (joined : Composed rules types) : Composed rules (refine types i rule).1 := by
    rcases refine_cases types i rule with ⟨same, _⟩ | ⟨new, computed, _, same⟩
    · rwa [same]
    · rw [same]
      intro id ty known
      rw [Estimates.of_setIfInBounds] at known
      split at known
      case isTrue here =>
        obtain ⟨rfl, _⟩ := here
        have drawn : Joined (Draws rules id) new := step_joined joined found computed
        cases known
        cases old : types.of id with
        | none => exact drawn
        | some ty => exact .join (joined id ty old) drawn
      case isFalse => exact joined id ty known
  refine iterate_keeps keeps _ fun id ty known => ?_
  rw [Estimates.of, Array.getElem?_replicate] at known
  split at known <;> cases known

/-! ## Estimates absorb what is drawn -/

/-- A type that can be computed from the final estimates is absorbed by that of its rule. -/
theorem exists_estimate (found : rules[id.index]? = some rule) {new : OutputType}
    (computed : step (estimates rules) rule = some new) :
    ∃ ty, (estimates rules).of id = some ty ∧ ty.Absorbs new := by
  refine ⟨_, estimates_settled rules id.index rule found new computed, ?_⟩
  cases (estimates rules).of ⟨id.index⟩ with
  | none => exact .refl new
  | some old => exact OutputType.join_absorbs_right old new

/-- The estimate of a rule absorbs every type that the rule draws, if estimates tell whether there
are values. -/
theorem estimates_absorb {ty : OutputType} (drawn : Draws rules id ty)
    (telling : Telling rules id) :
    ∃ known, (estimates rules).of id = some known ∧ known.Absorbs ty := by
  induction drawn with
  | own found computed => exact exists_estimate found (step_own computed _)
  | @candidate id child candidates ty found member drawn ih =>
    obtain ⟨known, estimate, absorbs⟩ := ih (telling.child found member)
    have present : some known ∈ candidates.map (estimates rules).of :=
      List.mem_map.mpr ⟨child, member, estimate⟩
    obtain ⟨new, joined⟩ := exists_joinKnown present
    have computed : step (estimates rules) (.alternative none candidates) = some new := by
      rw [← joined]
      cases candidates with
      | nil => cases member
      | cons first rest => rfl
    obtain ⟨top, estimate', absorbs'⟩ := exists_estimate found computed
    exact ⟨top, estimate', absorbs'.trans ((joinKnown_absorbs joined present).trans absorbs)⟩
  | @optional id child ty found drawn ih =>
    obtain ⟨known, estimate, absorbs⟩ := ih (telling.child found List.mem_cons_self)
    have computed : step (estimates rules) (.optional child) = some known.optional := by
      rw [step, estimate, Option.map_some]
    obtain ⟨top, estimate', absorbs'⟩ := exists_estimate found computed
    exact ⟨top, estimate', absorbs'.trans absorbs.optional⟩
  | @inner id opening inner closing ty found drawn ih =>
    obtain ⟨known, estimate, absorbs⟩ := ih (telling.child found List.mem_cons_self)
    have computed : step (estimates rules) (.surround opening inner closing) = some known :=
      estimate
    obtain ⟨top, estimate', absorbs'⟩ := exists_estimate found computed
    exact ⟨top, estimate', absorbs'.trans absorbs⟩
  | @listed id element separator min max ty found drawn ih =>
    obtain ⟨known, estimate, absorbs⟩ := ih (telling.child found List.mem_cons_self)
    have computed : step (estimates rules) (.repetition element separator min max .list) =
        some known.listed := by
      rw [step, estimate, Option.map_some, OutputType.listed]
    obtain ⟨top, estimate', absorbs'⟩ := exists_estimate found computed
    have alike := telling id .refl element separator min max found known ty estimate drawn absorbs
    rw [OutputType.listed, alike] at absorbs'
    exact ⟨top, estimate', absorbs'⟩

/-- Without mixed repetitions, what an element draws has values if its estimate has: the estimate is
a join of types that the element draws. -/
theorem Unmixed.telling (unmixed : Unmixed rules id) : Telling rules id := by
  intro other reached element separator min max found known ty estimate drawn absorbs
  cases void : known.isVoid with
  | true => exact (absorbs.isVoid void).symm
  | false =>
    cases void' : ty.isVoid with
    | false => rfl
    | true =>
      obtain ⟨valued, draws, alike⟩ := (estimates_joined rules _ _ estimate).exists_alike
      exact absurd ⟨element, separator, min, max, found, ty, valued, drawn, void', draws,
        alike.trans void⟩ (unmixed other reached)

/-- No repetition is mixed if none has an element that is known to have type `any`. -/
theorem unmixed_of_known (known : ∀ other element separator min max,
      rules[RuleId.index other]? = some (.repetition element separator min max .list) →
      (estimates rules).of element ≠ some .any) (id : RuleId) : Unmixed rules id := by
  have telling (id : RuleId) : Telling rules id := by
    intro other _ element separator min max found top ty estimate _ absorbs
    rcases OutputType.absorbs_iff.mp absorbs with rfl | rfl | ⟨rfl, numeric⟩
    · rfl
    · exact absurd estimate (known other element separator min max found)
    · cases ty <;> first | rfl | cases numeric
  rintro other - ⟨element, separator, min, max, found, empty, valued, draws, isVoid, draws',
    notVoid⟩
  obtain ⟨top, estimate, absorbs⟩ := estimates_absorb draws (telling element)
  obtain ⟨top', estimate', absorbs'⟩ := estimates_absorb draws' (telling element)
  cases estimate.symm.trans estimate'
  have tells := telling other other .refl element separator min max found top
  have same := (tells empty estimate draws absorbs).symm.trans
    (tells valued estimate draws' absorbs')
  rw [isVoid, notVoid] at same
  cases same

/-- The estimate of a rule is the join of all types that the rule draws. -/
theorem estimate_eq_iff (unmixed : Unmixed rules id) (ty : OutputType) :
    (estimates rules).of id = some ty ↔
      Joined (Draws rules id) ty ∧ ∀ other, Draws rules id other → ty.Absorbs other := by
  constructor
  · intro estimate
    refine ⟨estimates_joined rules id ty estimate, fun other drawn => ?_⟩
    obtain ⟨known, estimate', absorbs⟩ := estimates_absorb drawn unmixed.telling
    cases estimate.symm.trans estimate'
    exact absorbs
  · rintro ⟨joined, all⟩
    obtain ⟨other, drawn, _⟩ := joined.exists_alike
    obtain ⟨known, estimate, _⟩ := estimates_absorb drawn unmixed.telling
    have same : known = ty := by
      refine (estimates_joined rules id known estimate).unique joined (fun other drawn => ?_) all
      obtain ⟨known', estimate', absorbs⟩ := estimates_absorb drawn unmixed.telling
      cases estimate.symm.trans estimate'
      exact absorbs
    rw [estimate, same]

/-! ## The same rules in another order -/

/-- The other rules are the same ones, each where the permutation puts it. -/
def Renamed (σ : Equiv.Perm RuleId) (rules rules' : List Rule) : Prop :=
  ∀ id : RuleId, rules'[(σ id).index]? = rules[id.index]?.map (Rule.rename σ)

namespace Renamed

variable {σ : Equiv.Perm RuleId}

/-- A renamed rule is where the renaming puts it. -/
theorem found (renamed : Renamed σ rules rules') (found : rules[id.index]? = some rule) :
    rules'[(σ id).index]? = some (rule.rename σ) := by
  rw [renamed id, found]
  rfl

/-- Renaming back. -/
theorem symm (renamed : Renamed σ rules rules') : Renamed σ.symm rules' rules := by
  intro id
  have there := renamed (σ.symm id)
  rw [σ.apply_symm_apply] at there
  rw [there, Option.map_map]
  cases rules[(σ.symm id).index]? with
  | none => rfl
  | some rule => exact congrArg some (rule.rename_rename σ.symm_apply_apply).symm

/-- What a rule draws does not depend on its place. -/
theorem draws (renamed : Renamed σ rules rules') {ty : OutputType} (drawn : Draws rules id ty) :
    Draws rules' (σ id) ty := by
  induction drawn with
  | @own id rule ty found computed =>
    refine .own (renamed.found found) ?_
    cases rule with
    | alternative base candidates =>
      cases base with
      | some base => exact computed
      | none =>
        cases candidates with
        | nil => exact computed
        | cons first rest =>
          have known : joinKnown ((first :: rest).map (Estimates.of #[])) = some ty := computed
          rw [show (first :: rest).map (Estimates.of #[]) = ((first :: rest).map σ).map
            (Estimates.of #[]) by simp [Estimates.of]] at known
          exact known
    | repetition element separator min max collect => cases collect <;> exact computed
    | sequence ty parts separator => cases ty <;> exact computed
    | number kind => cases kind <;> exact computed
    | _ => exact computed
  | candidate found member _ ih =>
    exact .candidate (renamed.found found) (List.mem_map_of_mem member) ih
  | optional found _ ih => exact .optional (renamed.found found) ih
  | inner found _ ih => exact .inner (renamed.found found) ih
  | listed found _ ih => exact .listed (renamed.found found) ih

/-- A renamed rule draws the types that the rule draws. -/
theorem draws_iff (renamed : Renamed σ rules rules') (id : RuleId) (ty : OutputType) :
    Draws rules' (σ id) ty ↔ Draws rules id ty := by
  refine ⟨fun drawn => ?_, renamed.draws⟩
  have back := renamed.symm.draws drawn
  rwa [σ.symm_apply_apply] at back

/-- Renamed rules follow each other as the rules do. -/
theorem follows (renamed : Renamed σ rules rules') {child : RuleId}
    (follows : Follows rules id child) : Follows rules' (σ id) (σ child) := by
  obtain ⟨rule, found, member⟩ := follows
  refine ⟨_, renamed.found found, ?_⟩
  rw [Rule.followed_rename]
  exact List.mem_map_of_mem member

/-- A mixed rule stays mixed when it is renamed. -/
theorem mixed (renamed : Renamed σ rules rules') (mixed : Mixed rules id) :
    Mixed rules' (σ id) := by
  obtain ⟨element, separator, min, max, found, empty, valued, draws, isVoid, draws', notVoid⟩ :=
    mixed
  exact ⟨σ element, separator.map σ, min, max, renamed.found found, empty, valued,
    renamed.draws draws, isVoid, renamed.draws draws', notVoid⟩

/-- So does an unmixed one. -/
theorem unmixed (renamed : Renamed σ rules rules') (unmixed : Unmixed rules id) :
    Unmixed rules' (σ id) := by
  intro other reached mixed
  refine unmixed (σ.symm other) ?_ (renamed.symm.mixed mixed)
  have back : Relation.ReflTransGen (Follows rules) (σ.symm (σ id)) (σ.symm other) :=
    reached.lift σ.symm fun _ _ => renamed.symm.follows
  rwa [σ.symm_apply_apply] at back

/-- The estimate of a rule does not depend on its place. -/
theorem estimates_eq (renamed : Renamed σ rules rules') (unmixed : Unmixed rules id) :
    (estimates rules').of (σ id) = (estimates rules).of id := by
  ext ty
  rw [estimate_eq_iff unmixed, estimate_eq_iff (renamed.unmixed unmixed)]
  simp only [funext fun ty => propext (renamed.draws_iff id ty)]

end Renamed

/-- There is an estimate for every rule. -/
theorem size_estimates (rules : List Rule) : (estimates rules).size = rules.length := by
  have keeps (types : Estimates) (i : Nat) (rule : Rule) (_ : rules[i]? = some rule)
      (size : types.size = rules.length) : (refine types i rule).1.size = rules.length := by
    rcases refine_cases types i rule with ⟨same, _⟩ | ⟨_, _, _, same⟩
    · rwa [same]
    · rw [same]
      exact Array.size_setIfInBounds.trans size
  exact iterate_keeps keeps _ Array.size_replicate

/-- The types inferred are the final estimates, with `any` where there is none. -/
theorem inferOutputs_eq (rules : List Rule) (id : RuleId) :
    (inferOutputs rules)[id.index]? =
      rules[id.index]?.map fun _ => ((estimates rules).of id).getD .any := by
  rw [inferOutputs, Array.getElem?_map, Estimates.of]
  by_cases inside : id.index < rules.length
  · rw [Array.getElem?_eq_getElem (by rwa [size_estimates]), List.getElem?_eq_getElem inside]
    rfl
  · rw [Array.getElem?_eq_none_iff.mpr (by rw [size_estimates]; omega),
      List.getElem?_eq_none_iff.mpr (by omega)]
    rfl

end Inference

open Inference

/-- The type of a rule does not depend on the order of the rules, if it is computed without the
types of repetitions that gather lists of elements with values and without. -/
theorem inferOutputs_renamed {σ : Equiv.Perm RuleId} {rules rules' : List Rule} {id : RuleId}
    (renamed : Renamed σ rules rules') (unmixed : Unmixed rules id) :
    (inferOutputs rules')[(σ id).index]? = (inferOutputs rules)[id.index]? := by
  rw [inferOutputs_eq, inferOutputs_eq, renamed.estimates_eq unmixed, renamed id, Option.map_map]
  rfl

/-- A list of letters is one before its letter and after it. -/
theorem inferOutputs_renamed_letters :
    let letter := Rule.charRange [('a', 'z')] false
    let list (element : RuleId) := Rule.repetition element none 0 none .list
    Renamed (.swap ⟨0⟩ ⟨1⟩) [list ⟨1⟩, letter] [letter, list ⟨0⟩] ∧
      Unmixed [list ⟨1⟩, letter] ⟨0⟩ ∧
      (inferOutputs [letter, list ⟨0⟩])[1]? = (inferOutputs [list ⟨1⟩, letter])[0]? := by
  intro letter list
  have renamed : Renamed (.swap ⟨0⟩ ⟨1⟩) [list ⟨1⟩, letter] [letter, list ⟨0⟩] := by
    rintro ⟨_ | _ | n⟩
    · rfl
    · rfl
    · rw [Equiv.swap_apply_of_ne_of_ne (by simp) (by simp)]
      rfl
  have unmixed : Unmixed [list ⟨1⟩, letter] ⟨0⟩ := by
    refine unmixed_of_known (fun other element separator min max found => ?_) _
    obtain ⟨_ | _ | n⟩ := other
    · cases found
      decide
    · cases (Option.some.inj found : Rule.charRange _ _ = _)
    · cases found
  exact ⟨renamed, unmixed, inferOutputs_renamed renamed unmixed⟩

/-- A repetition of blanks or a text is a list after the text, but not before it. -/
example : inferOutputs [.whitespace, .alternative none [⟨0⟩, ⟨3⟩],
      .repetition ⟨1⟩ none 0 none .list, .literal "x" false] = #[.void, .any, .any, .text] ∧
    inferOutputs [.whitespace, .literal "x" false, .alternative none [⟨0⟩, ⟨1⟩],
      .repetition ⟨2⟩ none 0 none .list] = #[.void, .text, .any, .list] := by
  cbv

end Packrat
