import Packrat.Proofs.Lowering.Finished

/-!
# Sources of values

Alternatives, optional rules and surrounded ones take over the values of children. Their programs
call these children, so the programs of the children are published with them. What an alternative
with a base takes over was checked to be an object that implements the base.

* `Rule.sources`: the children whose values a rule takes over.
* `Program.Calls`: a program has the matcher of a rule.

Main statements: `calls_sources` and `accepts_of_emits`.
-/

namespace Packrat

/-- The children whose values a rule takes over as its own. -/
def Rule.sources : Rule → List RuleId
  | .alternative _ candidates => candidates
  | .optional child => [child]
  | .surround _ inner _ => [inner]
  | _ => []

/-- The program has a matcher for a rule. -/
def Program.Calls (p : Program) (rule : RuleId) : Prop :=
  ∃ (i : Nat) (h : Handle), p.callees[i]? = some ⟨rule, some h⟩

namespace Lowering

open Assemble

variable {p : Program} {cx : Context} {a b : Assembler} {u : Unit} {slot : Option Slot}
  {child : RuleId} {name : Option String} {dst : Option Slot} {onFail : Label}

/-- A program with the call of a child has a matcher for the child. -/
theorem calls_callRule (h : callRule child name dst onFail a = (u, b)) (placed : Placed p b) :
    p.Calls child := by
  obtain ⟨index, c, numbered, _, placed'⟩ := assemble_split h placed
  obtain ⟨handle, entry⟩ := (callee_found numbered placed').1
  exact ⟨index.index, handle, entry⟩

/-- So has a program with a call without a result. -/
theorem calls_callVoid (h : Emits (callVoid child name onFail) a u b) (placed : Placed p b) :
    p.Calls child := by
  obtain ⟨_, _, _, called, _⟩ := h.split placed
  exact calls_callRule called.assembled placed

/-- However a child is called for its value, it is called. -/
theorem calls_callInto (h : Emits (callInto cx child dst onFail) a u b) (placed : Placed p b) :
    p.Calls child := by
  unfold callInto at h
  dsimp only at h
  split at h
  case h_1 => exact calls_callVoid h placed
  case h_2 =>
    split at h
    case isTrue =>
      obtain ⟨_, _, _, called, _⟩ := h.split placed
      exact calls_callRule called.assembled placed
    case isFalse => exact h.not_thrown.elim
  case h_3 =>
    split at h
    case isTrue =>
      obtain ⟨_, _, called, _, placed'⟩ := h.split placed
      exact calls_callVoid called placed'
    case isFalse =>
      split at h
      case isTrue =>
        obtain ⟨_, _, _, h, _⟩ := h.split placed
        obtain ⟨_, _, _, h, _⟩ := h.step placed
        obtain ⟨_, _, called, _, placed'⟩ := h.step placed
        exact calls_callRule called placed'
      case isFalse =>
        obtain ⟨_, _, _, called, _⟩ := h.split placed
        exact calls_callRule called.assembled placed

/-- A program that tries candidates has matchers for all of them. -/
theorem calls_tryCandidates {done : Label} {candidates : List RuleId}
    (h : Emits (tryCandidates cx dst done candidates) a u b) (placed : Placed p b) :
    ∀ candidate ∈ candidates, p.Calls candidate := by
  induction candidates generalizing a u with
  | nil => exact fun _ member => nomatch member
  | cons candidate rest ih =>
    unfold tryCandidates at h
    obtain ⟨next, _, _, h, _⟩ := h.step placed
    obtain ⟨_, _, called, h, placed'⟩ := h.split placed
    obtain ⟨_, _, _, h, _⟩ := h.step placed
    obtain ⟨_, _, _, h, _⟩ := h.step placed
    intro other member
    rcases List.mem_cons.mp member with rfl | member
    · exact calls_callInto called placed'
    · exact ih h other member

/-- The check of an alternative that is lowered has succeeded. -/
theorem checked_of_emits {base : Option String} {candidates : List RuleId}
    (h : Emits (alternative cx base candidates) a slot b) :
    checkAlternative cx base candidates = .ok () := by
  unfold alternative at h
  cases checked : checkAlternative cx base candidates with
  | ok => rfl
  | error e =>
    rw [checked] at h
    exact h.not_thrown.elim

/-- The candidates of an alternative that is lowered implement the base, if there is one. -/
theorem accepts_of_emits {base : String} {candidates : List RuleId}
    (h : Emits (alternative cx (some base) candidates) a slot b) :
    ∀ candidate ∈ candidates, acceptsCandidate cx base candidate = true := by
  have checked := checked_of_emits h
  unfold checkAlternative at checked
  split at checked
  · cases checked
  · dsimp only at checked
    split at checked
    · cases checked
    · split at checked
      · cases checked
      case h_2 fits => simpa using fits

/-- The program of a rule calls the children whose values the rule takes over. -/
theorem calls_sources [RegexEngine] {rule : Rule} (h : Emits (body cx rule) a slot b)
    (placed : Placed p b) : ∀ child ∈ rule.sources, p.Calls child := by
  intro child member
  cases rule with
  | alternative base candidates =>
    have checked := checked_of_emits h
    rw [body] at h
    unfold alternative at h
    rw [checked] at h
    obtain ⟨_, _, _, h, _⟩ := h.step placed
    obtain ⟨_, _, _, h, _⟩ := h.step placed
    obtain ⟨_, _, tried, _, placed'⟩ := h.split placed
    exact calls_tryCandidates tried placed' child member
  | optional inner =>
    rw [body] at h
    unfold Lowering.optional at h
    obtain ⟨_, _, _, h, _⟩ := h.step placed
    obtain ⟨_, _, _, h, _⟩ := h.step placed
    obtain ⟨_, _, _, h, _⟩ := h.step placed
    obtain ⟨_, _, called, _, placed'⟩ := h.split placed
    rw [List.mem_singleton.mp member]
    exact calls_callInto called placed'
  | surround opening inner closing =>
    rw [body] at h
    unfold Lowering.surround at h
    obtain ⟨_, _, _, h, _⟩ := h.step placed
    obtain ⟨_, _, _, h, _⟩ := h.step placed
    obtain ⟨_, _, _, h, _⟩ := h.step placed
    obtain ⟨_, _, _, h, _⟩ := h.split placed
    obtain ⟨_, _, called, _, placed'⟩ := h.split placed
    rw [List.mem_singleton.mp member]
    exact calls_callInto called placed'
  | _ => cases member

end Lowering

end Packrat
