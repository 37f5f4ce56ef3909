import Mathlib.Computability.StateTransition
import Packrat.Proofs.Grammar.Order

/-!
# The ascent of estimates

Passes are made over the rules until one of them changes nothing, and nothing but the estimates
themselves keeps them from going on for ever. They do not, since an update only lets an estimate
climb in the order of types, and an estimate that has reached `any` stays. The type that a later
pass computes for a rule need not be above its estimate, but the join of both is.

* `OutputType.Below`: the order of types, of which `OutputType.join` is the least upper bound.
* `Inference.Moment`: how far the passes have got.
* `Inference.proceed`: the next step of the passes, which are under no bound here.
* `Inference.Moment.Bounded`: the passes made so far, and how often estimates can still be raised.

Main statements: `Moment.Bounded.of_reaches`, and `inferOutputs_climbs`.
-/

namespace Packrat

namespace OutputType

variable {a b : OutputType}

/-- The order of types: `int` and `float` below `number`, and everything below `any`. -/
inductive Below : OutputType → OutputType → Prop
  | refl (a : OutputType) : Below a a
  | int : Below .int .number
  | float : Below .float .number
  | any (a : OutputType) : Below a .any

/-- A type is below another one just if that one absorbs it. -/
theorem below_iff_absorbs : a.Below b ↔ b.Absorbs a := by
  rw [absorbs_iff]
  constructor
  · rintro (_ | _ | _ | _)
    · exact .inl rfl
    · exact .inr (.inr ⟨rfl, rfl⟩)
    · exact .inr (.inr ⟨rfl, rfl⟩)
    · exact .inr (.inl rfl)
  · rintro (rfl | rfl | ⟨rfl, numeric⟩)
    · exact .refl b
    · exact .any a
    · cases a with
      | int => exact .int
      | float => exact .float
      | number => exact .refl _
      | _ => cases numeric

/-- The join of two types is their least upper bound. -/
instance : SemilatticeSup OutputType where
  le := Below
  le_refl := .refl
  le_trans _ _ _ first second :=
    below_iff_absorbs.mpr ((below_iff_absorbs.mp second).trans (below_iff_absorbs.mp first))
  le_antisymm _ _ one other :=
    (below_iff_absorbs.mp other).antisymm (below_iff_absorbs.mp one)
  sup := join
  le_sup_left a b := below_iff_absorbs.mpr (join_absorbs_left a b)
  le_sup_right a b := below_iff_absorbs.mpr (join_absorbs_right a b)
  sup_le _ _ _ left right :=
    below_iff_absorbs.mpr ((below_iff_absorbs.mp left).join (below_iff_absorbs.mp right))

/-- So it is in the order of the lattice. -/
theorem le_iff_absorbs : a ≤ b ↔ b.Absorbs a := below_iff_absorbs

end OutputType

namespace Inference

open StateTransition

variable {types : Estimates} {rules rest : List Rule} {rule : Rule} {id : RuleId} {i : Nat}

/-! ## One step of the passes -/

/-- An estimate is below what it is raised to. -/
theorem le_raise (old : Option OutputType) (new : OutputType) : old ≤ some (raise old new) := by
  cases old with
  | none => exact Option.none_le
  | some old => exact Option.some_le_some.mpr le_sup_left

/-- An estimate that stays does not fall. -/
theorem le_self (ty : Option OutputType) : ty ≤ ty := by
  cases ty with
  | none => exact Option.none_le
  | some ty => exact Option.some_le_some.mpr le_rfl

/-- Refining one estimate lets no estimate fall. -/
theorem le_refine (types : Estimates) (i : Nat) (rule : Rule) (id : RuleId) :
    types.of id ≤ (refine types i rule).1.of id := by
  rcases refine_cases types i rule with ⟨same, _⟩ | ⟨new, _, _, same⟩
  · rw [same]
    exact le_self _
  · rw [same, Estimates.of_setIfInBounds]
    split
    case isTrue here =>
      obtain ⟨rfl, _⟩ := here
      exact le_raise (types.of id) new
    case isFalse => exact le_self _

/-- How far the passes over the rules have got. -/
structure Moment where
  /-- The number of the pass that is being made, counted from one. -/
  pass : Nat
  /-- Whether the pass has changed an estimate. -/
  changed : Bool
  /-- The place of the next rule. -/
  place : Nat
  /-- The estimates. -/
  types : Estimates

/-- Before the first pass, no type is known. -/
def Moment.first (rules : List Rule) : Moment :=
  ⟨1, false, 0, Array.replicate rules.length none⟩

/-- The estimate of the next rule is refined. After the last rule another pass begins if this one
has changed an estimate; otherwise the passes are over. -/
def proceed (rules : List Rule) (moment : Moment) : Option Moment :=
  match rules[moment.place]? with
  | some rule =>
    let (types, again) := refine moment.types moment.place rule
    some ⟨moment.pass, moment.changed || again, moment.place + 1, types⟩
  | none => if moment.changed then some ⟨moment.pass + 1, false, 0, moment.types⟩ else none

/-- At the place of a rule, its estimate is refined. -/
theorem proceed_of_found {moment : Moment} (found : rules[moment.place]? = some rule) :
    proceed rules moment =
      some ⟨moment.pass, moment.changed || (refine moment.types moment.place rule).2,
        moment.place + 1, (refine moment.types moment.place rule).1⟩ := by
  unfold proceed
  rw [found]

/-- Behind the last rule, another pass begins if this one has changed anything. -/
theorem proceed_of_last {moment : Moment} (last : rules.length ≤ moment.place) :
    proceed rules moment =
      if moment.changed then some ⟨moment.pass + 1, false, 0, moment.types⟩ else none := by
  unfold proceed
  rw [List.getElem?_eq_none_iff.mpr last]

variable {before after : Moment}

/-- A step refines an estimate or begins another pass. -/
theorem proceed_cases (proceeds : proceed rules before = some after) :
    (∃ rule, rules[before.place]? = some rule ∧
      after = ⟨before.pass, before.changed || (refine before.types before.place rule).2,
        before.place + 1, (refine before.types before.place rule).1⟩) ∨
    (before.changed = true ∧ after = ⟨before.pass + 1, false, 0, before.types⟩) := by
  cases found : rules[before.place]? with
  | some rule =>
    rw [proceed_of_found found] at proceeds
    exact .inl ⟨rule, rfl, (Option.some.inj proceeds).symm⟩
  | none =>
    rw [proceed_of_last (List.getElem?_eq_none_iff.mp found)] at proceeds
    split at proceeds
    case isTrue changed => exact .inr ⟨changed, (Option.some.inj proceeds).symm⟩
    case isFalse => cases proceeds

/-- No step lets an estimate fall. -/
theorem le_of_proceed (proceeds : proceed rules before = some after) (id : RuleId) :
    before.types.of id ≤ after.types.of id := by
  rcases proceed_cases proceeds with ⟨rule, _, rfl⟩ | ⟨_, rfl⟩
  · exact le_refine before.types before.place rule id
  · exact le_self _

/-! ## The number of passes -/

/-- Every pass before this one took up one of the `3 n` times that estimates can be raised, and so
has this pass if it has changed one. -/
structure Moment.Bounded (rules : List Rule) (moment : Moment) : Prop where
  size : moment.types.size = rules.length
  raised : moment.pass + moment.changed.toNat + slack moment.types ≤ 3 * rules.length + 1

namespace Moment.Bounded

/-- The first moment keeps the bounds. -/
theorem first (rules : List Rule) : (Moment.first rules).Bounded rules where
  size := Array.size_replicate
  raised := by
    dsimp only [Moment.first]
    rw [slack_replicate, Bool.toNat_false]
    omega

/-- A moment that follows keeps the bounds. -/
theorem proceed (bounded : before.Bounded rules)
    (proceeds : proceed rules before = some after) : after.Bounded rules := by
  obtain ⟨size, raised⟩ := bounded
  rcases proceed_cases proceeds with ⟨rule, found, rfl⟩ | ⟨changed, rfl⟩
  · rcases refine_cases before.types before.place rule with ⟨same, _⟩ | ⟨new, _, higher, same⟩
    · rw [same, Bool.or_false]
      exact ⟨size, raised⟩
    · rw [same, Bool.or_true]
      have inside : before.place < before.types.size :=
        size ▸ (List.getElem?_eq_some_iff.mp found).1
      have less := slack_raise rfl inside higher
      refine ⟨Array.size_setIfInBounds.trans size, ?_⟩
      dsimp only
      rw [Bool.toNat_true]
      omega
  · rw [changed, Bool.toNat_true] at raised
    exact ⟨size, raised⟩

/-- The passes stay under their bound. -/
theorem of_reaches (bounded : before.Bounded rules)
    (reaches : Reaches (Inference.proceed rules) before after) : after.Bounded rules := by
  induction reaches with
  | refl => exact bounded
  | tail _ proceeds ih => exact ih.proceed proceeds

end Moment.Bounded

/-! ## The steps of a pass -/

/-- The steps that are left of a pass come to what the pass comes to. -/
theorem reaches_passFrom {pass : Nat} {changed : Bool} (inside : i ≤ rules.length)
    (left : rules.drop i = rest) :
    Reaches (proceed rules) ⟨pass, changed, i, types⟩
      ⟨pass, (passFrom types changed i rest).2, rules.length,
        (passFrom types changed i rest).1⟩ := by
  induction rest generalizing types changed i with
  | nil =>
    have last : i = rules.length := Nat.le_antisymm inside (List.drop_eq_nil_iff.mp left)
    rw [last]
    exact .refl
  | cons rule rest ih =>
    have found : rules[i]? = some rule := by
      rw [← List.head?_drop, left]
      rfl
    have here : i < rules.length := (List.getElem?_eq_some_iff.mp found).1
    have left' : rules.drop (i + 1) = rest := by
      rw [← List.tail_drop, left]
      rfl
    have next : proceed rules ⟨pass, changed, i, types⟩ = _ := proceed_of_found found
    exact .head next (ih here left')

/-- Passes that are limited in number come to the same, and are over unless all of them are made. -/
theorem reaches_iterate (rules : List Rule) (passes pass : Nat) (types : Estimates) :
    ∃ last, Reaches (proceed rules) ⟨pass, false, 0, types⟩ last ∧
      last.types = iterate rules passes types ∧
      (proceed rules last = none ∨ last.pass = pass + passes) := by
  induction passes generalizing pass types with
  | zero => exact ⟨_, .refl, rfl, .inr rfl⟩
  | succ passes ih =>
    let whole : Moment :=
      ⟨pass, (Inference.pass rules types).2, rules.length, (Inference.pass rules types).1⟩
    have made : Reaches (proceed rules) ⟨pass, false, 0, types⟩ whole :=
      reaches_passFrom (Nat.zero_le _) rfl
    have next : proceed rules whole = _ := proceed_of_last (Nat.le_refl _)
    rw [iterate_succ]
    split
    case isTrue changed =>
      rw [if_pos changed] at next
      obtain ⟨last, reaches, same, ends⟩ := ih (pass + 1) (Inference.pass rules types).1
      refine ⟨last, made.trans (.head next reaches), same, ?_⟩
      rwa [Nat.add_assoc, Nat.add_comm 1 passes] at ends
    case isFalse unchanged =>
      rw [if_neg unchanged] at next
      exact ⟨whole, made, rfl, .inl next⟩

/-- The passes end with the final estimates. -/
theorem exists_eval (rules : List Rule) :
    ∃ last ∈ eval (proceed rules) (Moment.first rules),
      last.pass ≤ 3 * rules.length + 1 ∧ last.types = estimates rules := by
  obtain ⟨last, reaches, same, ends⟩ := reaches_iterate rules (3 * rules.length + 1) 1
    (Array.replicate rules.length none)
  have bounded := (Moment.Bounded.first rules).of_reaches reaches
  have few : last.pass ≤ 3 * rules.length + 1 :=
    Nat.le_trans (Nat.le_trans (Nat.le_add_right _ _) (Nat.le_add_right _ _)) bounded.raised
  -- Had all passes been made, the next one would be past the bound.
  have ended : proceed rules last = none := by
    apply ends.resolve_right
    omega
  exact ⟨last, mem_eval.mpr ⟨reaches, ended⟩, few, same⟩

/-- The final estimate of a rule is above what is computed from the final estimates. -/
theorem step_le (found : rules[id.index]? = some rule) :
    step (estimates rules) rule ≤ (estimates rules).of id := by
  cases computed : step (estimates rules) rule with
  | none => exact Option.none_le
  | some new =>
    obtain ⟨ty, estimate, absorbs⟩ := exists_estimate found computed
    rw [estimate]
    exact Option.some_le_some.mpr (OutputType.le_iff_absorbs.mpr absorbs)

end Inference

open Inference

/-- The passes over `n` rules, made until one of them changes nothing, are `3 n + 1` at most, and
the output types are read off the estimates that they end with. No step on the way lets an estimate
fall, and at the end every estimate is above what is computed for its rule from the others. -/
theorem inferOutputs_climbs (rules : List Rule) :
    (∃ last ∈ StateTransition.eval (proceed rules) (Moment.first rules),
      last.pass ≤ 3 * rules.length + 1 ∧
      inferOutputs rules = last.types.map (fun ty => ty.getD .any) ∧
      ∀ (id : RuleId) (rule : Rule), rules[id.index]? = some rule →
        step last.types rule ≤ last.types.of id) ∧
    ∀ before after, proceed rules before = some after →
      ∀ id, before.types.of id ≤ after.types.of id := by
  constructor
  · obtain ⟨last, ends, few, same⟩ := exists_eval rules
    refine ⟨last, ends, few, ?_, ?_⟩
    · rw [same, inferOutputs]
    · intro id rule found
      rw [same]
      exact step_le found
  · intro before after proceeds
    exact le_of_proceed proceeds

/-- An integer or a float is taken for an integer until the float is come across: in the second
pass, where it climbs from `int` to `number`. That the rule refers to itself does no harm. -/
theorem inferOutputs_climbs_numbers :
    let either := Rule.alternative none [⟨0⟩, ⟨1⟩, ⟨2⟩]
    let rules := [Rule.number .integer, either, .number .float]
    let before : Moment := ⟨2, false, 1, #[some .int, some .int, some .float]⟩
    let after : Moment := ⟨2, true, 2, #[some .int, some .number, some .float]⟩
    proceed rules before = some after ∧ before.types.of ⟨1⟩ ≤ after.types.of ⟨1⟩ ∧
      rules[1]? = some either ∧ ∃ last ∈ StateTransition.eval (proceed rules) (Moment.first rules),
        last.pass ≤ 10 ∧ inferOutputs rules = last.types.map (fun ty => ty.getD .any) ∧
        step last.types either ≤ last.types.of ⟨1⟩ := by
  intro either rules before after
  have proceeds : proceed rules before = some after := rfl
  obtain ⟨⟨last, ends, few, types, above⟩, climbs⟩ := inferOutputs_climbs rules
  exact ⟨proceeds, climbs before after proceeds ⟨1⟩, rfl, last, ends, few, types,
    above ⟨1⟩ either rfl⟩

end Packrat
