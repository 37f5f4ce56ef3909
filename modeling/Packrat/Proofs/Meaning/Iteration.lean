import Packrat.Proofs.Meaning

/-!
# Iterations

What the rounds of a repetition come to, told without the bytes left and what is gathered on the
way: elements that were matched one behind the other, why there are no more of them, and what is
made of their values.

* `attempt`: one more element, behind the separator unless it is the first one.
* `Iterated`: elements each of which consumed something.
* `Halts`: elements behind which there are no more, and why.
* `Collected`: what is made of the values of elements.
* `Round`: how a round goes.

Main statement: `halts_of_rounds`.
-/

namespace Packrat.Meaning

open Text (Within)

variable {σ : Type}

/-! ## Elements -/

section

variable (child : RuleId → Nat → Passage σ Outcome) (element : RuleId) (separator : Option RuleId)
  (max : Option Nat)

/-- One more element at a place, behind the separator unless it is the first one. -/
def attempt (first : Bool) (pos : Nat) : Passage σ Outcome :=
  onMatch (separated child separator first pos) fun _ mid => child element mid

/-- Elements one behind the other, by their values, up to a place. Each was attempted below the
greatest number of them, and consumed something, if only with its separator. -/
inductive Iterated (start : Nat) (s : σ) : List (Option Value) → Nat → σ → Prop where
  /-- No element. -/
  | none : Iterated start s [] start s
  /-- One more element. -/
  | more {values : List (Option Value)} {pos stop : Nat} {value : Option Value} {s' s'' : σ}
      (before : Iterated start s values pos s') (below : ∀ bound ∈ max, values.length < bound)
      (next : attempt child element separator values.isEmpty pos s' (.matched value stop) s'')
      (moved : stop ≠ pos) : Iterated start s (values ++ [value]) stop s''

/-- Why a repetition comes to a halt. -/
inductive Halt where
  /-- There are as many elements as there may be. -/
  | full
  /-- There is no more element, or no separator before it. -/
  | refused
  /-- The last element consumed nothing, nor did its separator. -/
  | still
  deriving DecidableEq

/-- Elements behind which a repetition comes to a halt, by their values, up to a place. -/
inductive Halts (start : Nat) (s : σ) : Halt → List (Option Value) → Nat → σ → Prop where
  /-- There are as many elements as there may be. -/
  | full {values : List (Option Value)} {pos : Nat} {s' : σ}
      (before : Iterated child element separator max start s values pos s')
      (full : max = some values.length) : Halts start s .full values pos s'
  /-- The next attempt fails, and its separator does not count. -/
  | refused {values : List (Option Value)} {pos : Nat} {s' s'' : σ}
      (before : Iterated child element separator max start s values pos s')
      (below : ∀ bound ∈ max, values.length < bound)
      (next : attempt child element separator values.isEmpty pos s' .failed s'') :
      Halts start s .refused values pos s''
  /-- The next attempt is successful and consumes nothing. -/
  | still {values : List (Option Value)} {pos : Nat} {value : Option Value} {s' s'' : σ}
      (before : Iterated child element separator max start s values pos s')
      (below : ∀ bound ∈ max, values.length < bound)
      (next : attempt child element separator values.isEmpty pos s' (.matched value pos) s'') :
      Halts start s .still (values ++ [value]) pos s''

end

section

variable {child : RuleId → Nat → Passage σ Outcome} {element : RuleId} {separator : Option RuleId}
  {max : Option Nat} {start pos : Nat} {values : List (Option Value)} {halt : Halt} {s s' : σ}

/-- A repetition never takes more elements than its upper bound. -/
theorem Iterated.length_le (before : Iterated child element separator max start s values pos s') :
    ∀ bound ∈ max, values.length ≤ bound := by
  intro bound greatest
  cases before with
  | none => exact Nat.zero_le bound
  | more _ below => simpa [Nat.succ_le_iff] using below bound greatest

/-- There are never more elements than there may be. -/
theorem Halts.length_le (halts : Halts child element separator max start s halt values pos s') :
    ∀ bound ∈ max, values.length ≤ bound := by
  intro bound greatest
  cases halts with
  | full before => exact before.length_le bound greatest
  | refused before => exact before.length_le bound greatest
  | still _ below => simpa [Nat.succ_le_iff] using below bound greatest

/-- An attempt that matches is a match of the element behind one of the separator, if any. -/
theorem attempt_matched {first : Bool} {value : Option Value} {stop : Nat}
    (next : attempt child element separator first pos s (.matched value stop) s') :
    ∃ mid s₁, (∃ value, separated child separator first pos s (.matched value mid) s₁) ∧
      child element mid s₁ (.matched value stop) s' := by
  obtain ⟨out, s₁, here, there⟩ := next
  cases out with
  | failed => cases there.1
  | faulted fault => cases there.1
  | matched value mid => exact ⟨mid, s₁, ⟨value, here⟩, there⟩

/-- An attempt that matches ends further on in the text if children do. -/
theorem attempt_within {text : String}
    (further : ∀ (rule : RuleId) (pos : Nat) (s : σ) (value : Option Value) (stop : Nat) (s' : σ),
      child rule pos s (.matched value stop) s' → Within text pos stop)
    {first : Bool} {value : Option Value} {stop : Nat}
    (next : attempt child element separator first pos s (.matched value stop) s') :
    Within text pos stop := by
  obtain ⟨mid, s₁, ⟨value₁, here⟩, there⟩ := attempt_matched next
  have ahead : Within text pos mid := by
    unfold separated at here
    split at here
    · exact further _ _ _ _ _ _ here
    · cases here.1
      exact .refl
  exact ahead.trans (further _ _ _ _ _ _ there)

end

/-! ## Values -/

/-- What is made of the values of elements: all of their texts one behind the other, a list of all
of them, or nothing if elements have no values. -/
inductive Collected (ty : OutputType) : Collect → List (Option Value) → Option Value → Prop where
  /-- Elements whose values are texts or characters. -/
  | text {items : List Value} {texts : List String} (added : items.mapM addedText = some texts) :
      Collected ty .text (items.map some) (some (.str (String.join texts)))
  /-- Elements with values. -/
  | list (items : List Value) (valued : ty.isVoid = false) :
      Collected ty .list (items.map some) (some (.list items.toArray))
  /-- Elements without values. -/
  | none (count : Nat) (void : ty.isVoid = true) :
      Collected ty .list (List.replicate count none) none

section

variable {name : String} {collect : Collect} {ty : OutputType} {values : List (Option Value)}
  {value acc acc' : Option Value}

/-- A repetition that has taken nothing holds the empty collection. -/
theorem collected_start (collect : Collect) (ty : OutputType) :
    Collected ty collect [] (gatheredStart collect ty) := by
  cases collect with
  | text =>
    have nothing : ([] : List Value).mapM addedText = some [] := rfl
    exact .text nothing
  | list =>
    cases void : ty.isVoid with
    | true =>
      rw [gatheredStart, void]
      exact .none 0 void
    | false =>
      rw [gatheredStart, void]
      exact .list [] void

/-- Gathering one more value. -/
theorem Collected.gather (before : Collected ty collect values acc)
    (textual : collect = .text → ty.isVoid = false) (typed : value.isNone = ty.isVoid)
    (gathered : Meaning.gather name collect acc value = .ok acc') :
    Collected ty collect (values ++ [value]) acc' := by
  have present (valued : ty.isVoid = false) : ∃ item, value = some item := by
    cases value with
    | none => rw [valued] at typed; cases typed
    | some item => exact ⟨item, rfl⟩
  cases before with
  | @text items texts added =>
    obtain ⟨item, rfl⟩ := present (textual rfl)
    rw [Meaning.gather] at gathered
    cases adds : addedText item with
    | none => rw [adds] at gathered; cases gathered
    | some more =>
      rw [adds] at gathered
      cases gathered
      have all : (items ++ [item]).mapM addedText = some (texts ++ [more]) := by
        simp [added, adds]
      have longer : Collected ty .text _ _ := .text all
      simpa using longer
  | list items valued =>
    obtain ⟨item, rfl⟩ := present valued
    cases gathered
    simpa using Collected.list (items ++ [item]) valued
  | none count void =>
    cases gathered
    rw [void, Option.isNone_iff_eq_none] at typed
    rw [typed, ← List.replicate_succ']
    exact .none (count + 1) void

end

/-! ## Rounds -/

section

variable (child : RuleId → Nat → Passage σ Outcome) (name : String) (element : RuleId)
  (separator : Option RuleId) (min : Nat) (max : Option Nat) (collect : Collect)

/-- How a round goes: there are enough elements, the next attempt fails or consumes nothing, there
is a fault, or there is one more element and the rounds go on. -/
inductive Round (fuel count : Nat) (acc : Option Value) (pos : Nat) (s : σ) :
    Outcome → σ → Prop where
  /-- There are as many elements as there may be. -/
  | full (full : isFull max count = true) :
      Round fuel count acc pos s (enough min count acc pos) s
  /-- The next attempt fails. -/
  | refused {s' : σ} (below : isFull max count = false)
      (next : attempt child element separator (count == 0) pos s .failed s') :
      Round fuel count acc pos s (enough min count acc pos) s'
  /-- There is a fault. -/
  | faulted (fault : EngineFault) (s' : σ) :
      Round fuel count acc pos s (.faulted fault) s'
  /-- The next attempt consumes nothing. -/
  | still {value acc' : Option Value} {s' : σ} (below : isFull max count = false)
      (next : attempt child element separator (count == 0) pos s (.matched value pos) s')
      (gathered : gather name collect acc value = .ok acc') :
      Round fuel count acc pos s (.matched acc' pos) s'
  /-- There is one more element. -/
  | more {value acc' : Option Value} {stop : Nat} {s' s'' : σ} {out : Outcome}
      (below : isFull max count = false)
      (next : attempt child element separator (count == 0) pos s (.matched value stop) s')
      (gathered : gather name collect acc value = .ok acc') (moved : stop ≠ pos)
      (rest : rounds child name element separator min max collect fuel (count + 1) acc' stop s' out
        s'') :
      Round fuel count acc pos s out s''

end

section

variable {child : RuleId → Nat → Passage σ Outcome} {element : RuleId} {separator : Option RuleId}
  {min : Nat} {max : Option Nat} {start : Nat} {s : σ}

/-- How a repetition comes out that has come to a halt behind some elements. -/
def haltedOutcome (min : Nat) (halt : Halt) (count : Nat) (value : Option Value) (stop : Nat) :
    Outcome :=
  if halt = .refused ∧ count < min then .failed else .matched value stop

/-- A repetition goes on while its count is below its upper bound. -/
theorem isFull_eq_false {count : Nat} :
    isFull max count = false ↔ ∀ bound ∈ max, count < bound := by
  cases max <;> simp [isFull]

/-- Rounds begin with one of these. -/
theorem round_of_rounds {name : String} {collect : Collect} {fuel count pos : Nat}
    {acc : Option Value} {s' : σ} {out : Outcome}
    (ways : rounds child name element separator min max collect (fuel + 1) count acc pos s out s') :
    Round child name element separator min max collect fuel count acc pos s out s' := by
  rw [rounds] at ways
  cases below : isFull max count with
  | true =>
    rw [if_pos below] at ways
    obtain ⟨rfl, rfl⟩ := ways
    exact .full below
  | false =>
    rw [if_neg (by rw [below]; exact Bool.false_ne_true)] at ways
    obtain ⟨round, s₁, next, rest⟩ := ways
    change attempt child element separator (count == 0) pos s round s₁ at next
    cases round with
    | failed =>
      obtain ⟨rfl, rfl⟩ := rest
      exact .refused below next
    | faulted fault =>
      obtain ⟨rfl, rfl⟩ := rest
      exact .faulted fault _
    | matched value stop =>
      dsimp only at rest
      cases gathered : gather name collect acc value with
      | error fault =>
        rw [gathered] at rest
        obtain ⟨rfl, rfl⟩ := rest
        exact .faulted fault _
      | ok acc' =>
        rw [gathered] at rest
        dsimp only at rest
        by_cases same : stop = pos
        · rw [if_pos same] at rest
          obtain ⟨rfl, rfl⟩ := rest
          subst same
          exact .still below next gathered
        · rw [if_neg same] at rest
          exact .more below next gathered same rest

/-- Rounds come to a halt behind the elements before them and theirs, unless there is a fault. -/
theorem halts_of_rounds {text : String}
    (further : ∀ (rule : RuleId) (pos : Nat) (s : σ) (value : Option Value) (stop : Nat) (s' : σ),
      child rule pos s (.matched value stop) s' → Within text pos stop)
    {ty : OutputType} (typed : ∀ (pos : Nat) (s : σ) (value : Option Value) (stop : Nat) (s' : σ),
      child element pos s (.matched value stop) s' → value.isNone = ty.isVoid)
    {collect : Collect} (textual : collect = .text → ty.isVoid = false)
    (ordered : ∀ bound ∈ max, min ≤ bound) {name : String} {fuel pos : Nat}
    {values : List (Option Value)} {acc : Option Value} {s' s'' : σ} {out : Outcome}
    (before : Iterated child element separator max start s values pos s')
    (collected : Collected ty collect values acc)
    (inside : pos ≤ text.utf8ByteSize) (fueled : text.utf8ByteSize - pos < fuel)
    (ways : rounds child name element separator min max collect fuel values.length acc pos s' out
      s'') :
    (∃ fault, out = .faulted fault) ∨ ∃ halt values value stop,
      Halts child element separator max start s halt values stop s'' ∧
        Collected ty collect values value ∧
        out = haltedOutcome min halt values.length value stop := by
  induction fuel generalizing pos values acc s' with
  | zero => omega
  | succ fuel ih =>
    have first : (values.length == 0) = values.isEmpty := by cases values <;> rfl
    cases round_of_rounds ways with
    | full full =>
      obtain ⟨bound, greatest, le⟩ : ∃ bound, max = some bound ∧ bound ≤ values.length := by
        simpa [isFull, Option.any_eq_true] using full
      have reached : values.length = bound := le_antisymm (before.length_le bound greatest) le
      have least := ordered bound greatest
      refine .inr ⟨.full, values, acc, pos, .full before (reached ▸ greatest), collected, ?_⟩
      rw [enough, if_neg (by omega), haltedOutcome, if_neg (by simp)]
    | refused below next =>
      rw [first] at next
      have halts := Halts.refused before (isFull_eq_false.mp below) next
      refine .inr ⟨.refused, values, acc, pos, halts, collected, ?_⟩
      simp [enough, haltedOutcome]
    | faulted fault => exact .inl ⟨fault, rfl⟩
    | still below next gathered =>
      rw [first] at next
      obtain ⟨_, _, _, matched⟩ := attempt_matched next
      have halts := Halts.still before (isFull_eq_false.mp below) next
      have whole := collected.gather textual (typed _ _ _ _ _ matched) gathered
      refine .inr ⟨.still, _, _, _, halts, whole, ?_⟩
      rw [haltedOutcome, if_neg (by simp)]
    | more below next gathered moved rest =>
      rw [first] at next
      obtain ⟨_, _, _, matched⟩ := attempt_matched next
      have iterated := Iterated.more before (isFull_eq_false.mp below) next moved
      have within := attempt_within further next
      have ahead := within.le
      have inside' := within.le_size inside
      refine ih iterated (collected.gather textual (typed _ _ _ _ _ matched) gathered) inside'
        (by omega) ?_
      rw [List.length_append]
      exact rest

end

end Packrat.Meaning
