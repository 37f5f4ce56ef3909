import Packrat.Proofs.Cache

/-!
# The recursion guard

What the book says of the guarded rules that are active, at places that a run can still come to.
The mask is kept for one place only, and the walk is looked at from its innermost place on; both
are exact since places do not decrease from a call to the calls below it.

* `guardOf`: the guard of a rule.
* `entered`: the guarded rules that are active once one more rule is entered.
* `Tracks`: the book is exact from a place on.

Main statement: `Tracks.enter`.
-/

namespace Packrat.Machine

/-! ## Masks -/

/-- A bit of a mask is set if the mask and that of the bit have something in common. -/
theorem and_bitMask_ne_zero {mask k : Nat} (inside : k < 64) :
    (mask &&& Guard.bitMask k != 0) = mask.testBit k := by
  rw [Guard.bitMask, if_pos inside, Nat.one_shiftLeft]
  cases set : mask.testBit k with
  | true =>
    have common : (mask &&& 2 ^ k).testBit k = true := by
      rw [Nat.testBit_and, set, Nat.testBit_two_pow_self]
      rfl
    cases zero : mask &&& 2 ^ k with
    | zero =>
      rw [zero, Nat.zero_testBit] at common
      cases common
    | succ n => rfl
  | false =>
    have nothing : mask &&& 2 ^ k = 0 := by
      refine Nat.eq_of_testBit_eq fun j => ?_
      rw [Nat.testBit_and, Nat.testBit_two_pow, Nat.zero_testBit]
      by_cases same : k = j
      · rw [← same, set]
        rfl
      · rw [decide_eq_false same, Bool.and_false]
    rw [nothing]
    rfl

/-- A bit is active at a place if the guard is for that place and has the bit in its mask. -/
theorem isActive_iff {guard : Guard} {k pos : Nat} (inside : k < 64) :
    guard.isActive k pos = true ↔ guard.position = pos ∧ guard.mask.testBit k = true := by
  rw [Guard.isActive, and_bitMask_ne_zero inside, Bool.and_eq_true, beq_iff_eq]

/-- Once a rule is entered at a place, its bit is set for that place, and other bits are as they
were there. -/
theorem isActive_enter {guard : Guard} {k k' pos q : Nat} (inside : k < 64) (inside' : k' < 64) :
    (guard.enter k pos).isActive k' q = true ↔
      pos = q ∧ (k = k' ∨ guard.isActive k' pos = true) := by
  rw [isActive_iff inside', isActive_iff inside']
  unfold Guard.enter Guard.bitMask
  rw [if_pos inside, Nat.one_shiftLeft]
  dsimp only
  refine and_congr_right fun _ => ?_
  rw [Nat.testBit_or, Nat.testBit_two_pow, Bool.or_eq_true, decide_eq_true_eq, Or.comm]
  refine or_congr_right ?_
  by_cases here : guard.position = pos
  · rw [if_pos here]
    exact ⟨fun set => ⟨here, set⟩, And.right⟩
  · rw [if_neg here, Nat.zero_testBit]
    simp [here]

/-! ## Active rules -/

/-- The guard of a rule. -/
def guardOf (guards : Guards) (rule : RuleId) : RecursionCheck :=
  (guards[rule]?).getD .none

/-- The guarded rules that are active once a rule is entered at a place. -/
def entered (guards : Guards) (rule : RuleId) (pos : Nat) (active : List (RuleId × Nat)) :
    List (RuleId × Nat) :=
  if guards.contains rule then (rule, pos) :: active else active

/-- The book says which guarded rules are active at the places from `pos` on, and there are none
behind that place. -/
structure Tracks (guards : Guards) (active : List (RuleId × Nat)) (pos : Nat) (book : Book) :
    Prop where
  reentry : ∀ (rule : RuleId) (q : Nat), pos ≤ q →
    (isReentry (guardOf guards rule) rule q book = true ↔ (rule, q) ∈ active)
  le : ∀ entry ∈ active, entry.2 ≤ pos
  guarded : ∀ entry ∈ active, guards.contains entry.1 = true

variable {guards : Guards} {active : List (RuleId × Nat)} {pos : Nat} {book : Book}

/-- At later places the book is exact, too. -/
theorem Tracks.later {pos' : Nat} (tracks : Tracks guards active pos book) (le : pos ≤ pos') :
    Tracks guards active pos' book where
  reentry rule q after := tracks.reentry rule q (Nat.le_trans le after)
  le entry member := Nat.le_trans (tracks.le entry member) le
  guarded := tracks.guarded

/-- Guard and walk are all that matters of the book. -/
theorem Tracks.of_eq {book' : Book} (tracks : Tracks guards active pos book)
    (guard : book'.guard = book.guard) (walk : book'.walk = book.walk) :
    Tracks guards active pos book' where
  reentry rule q after := by
    rw [← tracks.reentry rule q after]
    unfold isReentry
    rw [guard, walk]
  le := tracks.le
  guarded := tracks.guarded

/-- A parse starts with no active rules. -/
theorem Tracks.initial (guards : Guards) (pos : Nat) (traced : Bool) :
    Tracks guards [] pos (ParseState.initial traced).book where
  reentry rule q _ := by
    unfold isReentry ParseState.initial Guard.isActive
    cases guardOf guards rule <;> simp
  le := by simp
  guarded := by simp

/-- A rule without an entry has no guard. -/
theorem guardOf_of_not_contains {rule : RuleId} (free : guards.contains rule = false) :
    guardOf guards rule = .none := by
  have absent : guards[rule]? = none := by
    rw [← Option.not_isSome_iff_eq_none, ← Std.HashMap.contains_eq_isSome_getElem?, free]
    exact Bool.false_ne_true
  rw [guardOf, absent]
  rfl

/-- A rule with an entry has the guard that is there. -/
theorem getElem?_of_contains {rule : RuleId} (given : guards.contains rule = true) :
    guards[rule]? = some (guardOf guards rule) := by
  rw [Std.HashMap.contains_eq_isSome_getElem?] at given
  obtain ⟨guard, there⟩ := Option.isSome_iff_exists.mp given
  rw [guardOf, there]
  rfl

/-- The bit of a rule is one of the mask, and no other rule has it. -/
theorem bit_of_guardOf {nextBit k : Nat} (sound : GuardsSound guards nextBit) {rule : RuleId}
    (bit : guardOf guards rule = .bit k) : guards[rule]? = some (.bit k) ∧ k < 64 := by
  have there : guards[rule]? = some (.bit k) := by
    unfold guardOf at bit
    cases there : guards[rule]? with
    | none =>
      rw [there] at bit
      cases bit
    | some guard =>
      rw [there] at bit
      exact congrArg some bit
  have given := sound.given rule k there
  have bits := sound.bits
  exact ⟨there, by omega⟩

section

variable {nextBit : Nat} {rule other : RuleId} {q : Nat}
  (tracks : Tracks guards active pos book)

include tracks

/-- Behind the place where a rule is entered no rule is active. -/
theorem Tracks.idle_behind (less : pos < q) : (other, q) ∉ (rule, pos) :: active := by
  intro member
  rcases List.mem_cons.mp member with same | member
  · cases same
    exact absurd less (Nat.lt_irrefl _)
  · exact absurd (tracks.le _ member) (Nat.not_le_of_lt less)

variable (after : pos ≤ q)

include after

/-- Entering a rule with a bit tells of the rules with bits. -/
theorem Tracks.enter_bit (sound : GuardsSound guards nextBit) {k k' : Nat}
    (guard : guardOf guards rule = .bit k) (guard' : guardOf guards other = .bit k') :
    isReentry (.bit k') other q (guardEnter (.bit k) rule pos book) = true ↔
      (other, q) ∈ (rule, pos) :: active := by
  have old := tracks.reentry other q after
  rw [guard'] at old
  obtain ⟨there, inside⟩ := bit_of_guardOf sound guard
  obtain ⟨there', inside'⟩ := bit_of_guardOf sound guard'
  have same : k = k' ↔ other = rule := by
    constructor
    · rintro rfl
      exact sound.distinct other rule k there' there
    · rintro rfl
      cases there.symm.trans there'
      rfl
  refine (isActive_enter inside inside').trans ?_
  rcases Nat.lt_or_eq_of_le after with less | rfl
  · simp [tracks.idle_behind less, Nat.ne_of_lt less]
  · rw [same, List.mem_cons, ← old]
    simp [isReentry]

/-- Entering a rule that is kept on the walk tells of the rules that are. -/
theorem Tracks.enter_walk (guard' : guardOf guards other = .walk) :
    isReentry .walk other q (guardEnter .walk rule pos book) = true ↔
      (other, q) ∈ (rule, pos) :: active := by
  have old := tracks.reentry other q after
  rw [guard'] at old
  rcases Nat.lt_or_eq_of_le after with less | rfl
  · simp [tracks.idle_behind less, isReentry, guardEnter, Nat.ne_of_lt less]
  · rw [List.mem_cons, ← old]
    simp [isReentry, guardEnter, @eq_comm _ rule other]

/-- Entering a rule leaves what is guarded in another way as it is. -/
theorem Tracks.enter_apart (differs : guardOf guards rule ≠ guardOf guards other)
    (same : isReentry (guardOf guards other) other q
        (guardEnter (guardOf guards rule) rule pos book) =
      isReentry (guardOf guards other) other q book) :
    isReentry (guardOf guards other) other q
        (guardEnter (guardOf guards rule) rule pos book) = true ↔
      (other, q) ∈ (rule, pos) :: active := by
  have apart : other ≠ rule := by
    rintro rfl
    exact differs rfl
  rw [same, tracks.reentry other q after]
  simp [apart]

/-- Once a guarded rule is entered it is active at its place. -/
theorem Tracks.reentry_enter (sound : GuardsSound guards nextBit)
    (given : guards.contains rule = true) :
    isReentry (guardOf guards other) other q
        (guardEnter (guardOf guards rule) rule pos book) = true ↔
      (other, q) ∈ (rule, pos) :: active := by
  have apart := @Tracks.enter_apart guards active pos book rule other q tracks after
  cases guard : guardOf guards rule with
  | none => exact absurd (guard ▸ getElem?_of_contains given) (sound.real rule)
  | bit k =>
    cases guard' : guardOf guards other with
    | bit k' => exact tracks.enter_bit after sound guard guard'
    | _ =>
      rw [guard, guard'] at apart
      exact apart nofun rfl
  | walk =>
    cases guard' : guardOf guards other with
    | walk => exact tracks.enter_walk after guard'
    | _ =>
      rw [guard, guard'] at apart
      exact apart nofun rfl

end

/-- Entering a guarded rule keeps the book exact. -/
theorem Tracks.enter {nextBit : Nat} (sound : GuardsSound guards nextBit)
    (tracks : Tracks guards active pos book) (rule : RuleId) :
    Tracks guards (entered guards rule pos active) pos
      (guardEnter (guardOf guards rule) rule pos book) := by
  unfold entered
  cases given : guards.contains rule with
  | false =>
    rw [guardOf_of_not_contains given, if_neg Bool.false_ne_true]
    exact tracks
  | true =>
    rw [if_pos rfl]
    refine ⟨fun other q after => tracks.reentry_enter after sound given, fun entry member => ?_,
      fun entry member => ?_⟩
    · rcases List.mem_cons.mp member with rfl | member
      · exact Nat.le_refl _
      · exact tracks.le entry member
    · rcases List.mem_cons.mp member with rfl | member
      · exact given
      · exact tracks.guarded entry member

end Packrat.Machine
