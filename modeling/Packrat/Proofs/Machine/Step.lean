import Packrat.Proofs.Machine.Frame

/-!
# Steps of the machine

What a step does, said once: it performs an instruction of the running program, it answers a call,
it begins the run of a call, or it ends a run. And the way back from the machine to the runs: where
the machine comes to a result, the run that it was at came to an end by its calls.

* `Turn.state`: the parse state at a turn.
* `Turn.Settled`: a turn that is not at a call.
* `Moves`: what a step does.
* `runOn`: steps from a step on.
* `ComesToEnd`: from a turn of a run the machine comes to its end.

Main statements: `moves_step` and `calls_of_matchRule`.
-/

namespace Packrat.Machine

/-! ## Turns -/

/-- The parse state at a turn. -/
def Turn.state : Turn → ParseState
  | .at _ _ state => state
  | .calling _ _ _ _ _ _ state => state
  | .ended ending => ending.2

variable {env : Environment} {e : Entry} {callers : List Waiting} {p : Program} {pc : Nat}
  {regs : Registers} {state : ParseState}

/-- What calls keep is not changed by an instruction. -/
theorem performed_book (p : Program) (pc : Nat) (regs : Registers) (state : ParseState) :
    (performed env p pc regs state).state.book = state.book := by
  obtain ⟨cursor, book⟩ := state
  unfold performed
  dsimp only
  cases p.instruction pc with
  | error fault => rfl
  | ok i =>
    dsimp only
    cases execute env p i ⟨regs, cursor⟩ with
    | error fault after => rfl
    | ok control after => cases control <;> rfl

/-- What calls keep is not changed by storing the product of a call. -/
theorem resumed_book (p : Program) (pc : Nat) (regs : Registers) (dst : Option Slot)
    (onFail : Label) (outcome : Option Product) (state : ParseState) :
    (resumed p pc regs dst onFail outcome state).state.book = state.book := by
  obtain ⟨cursor, book⟩ := state
  unfold resumed
  cases outcome with
  | none =>
    dsimp only
    cases p.target onFail <;> rfl
  | some product =>
    dsimp only
    cases storeProduct p dst product ⟨regs, cursor⟩ <;> rfl

/-- A turn that is at an instruction or at the end. -/
inductive Turn.Settled : Turn → Prop where
  /-- At an instruction. -/
  | at (pc : Nat) (regs : Registers) (state : ParseState) : Settled (.at pc regs state)
  /-- At the end. -/
  | ended (ending : Ending) : Settled (.ended ending)

/-- Where a call has ended the run goes on at an instruction, or it ends with a fault. -/
theorem resumed_cases (p : Program) (pc : Nat) (regs : Registers) (dst : Option Slot)
    (onFail : Label) (outcome : Option Product) (state : ParseState) :
    (∃ pc' regs' state', resumed p pc regs dst onFail outcome state = .at pc' regs' state') ∨
      ∃ fault state', resumed p pc regs dst onFail outcome state =
        .ended (.error fault, state') := by
  obtain ⟨cursor, book⟩ := state
  unfold resumed
  cases outcome with
  | none =>
    dsimp only
    cases p.target onFail with
    | ok pc => exact .inl ⟨_, _, _, rfl⟩
    | error fault => exact .inr ⟨_, _, rfl⟩
  | some product =>
    dsimp only
    cases storeProduct p dst product ⟨regs, cursor⟩ with
    | ok _ after => exact .inl ⟨_, _, _, rfl⟩
    | error fault after => exact .inr ⟨_, _, rfl⟩

/-- A run that goes on behind a call is not about to call. -/
theorem resumed_settled (p : Program) (pc : Nat) (regs : Registers) (dst : Option Slot)
    (onFail : Label) (outcome : Option Product) (state : ParseState) :
    (resumed p pc regs dst onFail outcome state).Settled := by
  rcases resumed_cases p pc regs dst onFail outcome state with
    ⟨pc', regs', state', next⟩ | ⟨fault, state', next⟩
  · rw [next]
    exact .at pc' regs' state'
  · rw [next]
    exact .ended _

/-! ## Steps -/

/-- What a step does and what it leads to. -/
inductive Moves (env : Environment) : Config → Step → Prop where
  /-- An instruction is performed. -/
  | performed {state state' : ParseState} {e : Entry} {pc pc' : Nat} {regs regs' : Registers}
      {callers : List Waiting}
      (turn : performed env e.program pc regs state = .at pc' regs' state') :
      Moves env ⟨state, ⟨e, pc, regs⟩, callers⟩ (.running ⟨state', ⟨e, pc', regs'⟩, callers⟩)
  /-- A call is answered at once. -/
  | answered {state state₁ state₂ state' : ParseState} {e : Entry} {pc pc₁ pc' : Nat}
      {regs regs₁ regs' : Registers} {callers : List Waiting} {callee : Handle}
      {name : Option String} {dst : Option Slot} {onFail : Label} {q : Program}
      {outcome : Option Product}
      (turn : performed env e.program pc regs state =
        .calling callee name dst onFail pc₁ regs₁ state₁)
      (program : programOf env callee = .ok q)
      (enter : enterRule env q name state₁ = (.answered outcome, state₂))
      (next : resumed e.program pc₁ regs₁ dst onFail outcome state₂ = .at pc' regs' state') :
      Moves env ⟨state, ⟨e, pc, regs⟩, callers⟩ (.running ⟨state', ⟨e, pc', regs'⟩, callers⟩)
  /-- The run of a call begins. -/
  | entered {state state₁ state' : ParseState} {e : Entry} {pc pc₁ : Nat}
      {regs regs₁ : Registers} {callers : List Waiting} {callee : Handle} {name : Option String}
      {dst : Option Slot} {onFail : Label} {q : Program} {frame : Frame}
      (turn : performed env e.program pc regs state =
        .calling callee name dst onFail pc₁ regs₁ state₁)
      (program : programOf env callee = .ok q)
      (enter : enterRule env q name state₁ = (.entered frame, state')) :
      Moves env ⟨state, ⟨e, pc, regs⟩, callers⟩
        (.running ⟨state', frame, ⟨⟨e, pc₁, regs₁⟩, dst, onFail⟩ :: callers⟩)
  /-- The run of a call has ended. -/
  | returned {state state₁ state' : ParseState} {e e' : Entry} {pc pc₁ pc' : Nat}
      {regs regs₁ regs' : Registers} {dst : Option Slot} {onFail : Label}
      {callers : List Waiting} {outcome : Option Product}
      (turn : performed env e.program pc regs state = .ended (.ok outcome, state₁))
      (next : resumed e'.program pc₁ regs₁ dst onFail outcome (leaveRule e outcome state₁) =
        .at pc' regs' state') :
      Moves env ⟨state, ⟨e, pc, regs⟩, ⟨⟨e', pc₁, regs₁⟩, dst, onFail⟩ :: callers⟩
        (.running ⟨state', ⟨e', pc', regs'⟩, callers⟩)
  /-- The outermost run has ended. -/
  | finished {state state₁ : ParseState} {e : Entry} {pc : Nat} {regs : Registers}
      {outcome : Option Product}
      (turn : performed env e.program pc regs state = .ended (.ok outcome, state₁)) :
      Moves env ⟨state, ⟨e, pc, regs⟩, []⟩ (.finished (.ok outcome) (leaveRule e outcome state₁))
  /-- There is a fault. -/
  | faulted (c : Config) (fault : EngineFault) (state : ParseState) :
      Moves env c (.finished (.error fault) state)

/-- A step does one of these things. -/
theorem moves_step (env : Environment) (c : Config) : Moves env c (step env c) := by
  obtain ⟨state, ⟨e, pc, regs⟩, callers⟩ := c
  rw [step_eq]
  cases turn : Machine.performed env e.program pc regs state with
  | «at» pc₁ regs₁ state₁ => exact .performed turn
  | calling callee name dst onFail pc₁ regs₁ state₁ =>
    simp only [stepOf, call]
    cases program : programOf env callee with
    | error fault => exact .faulted ..
    | ok q =>
      dsimp only
      cases enter : enterRule env q name state₁ with
      | mk admission state₂ =>
        cases admission with
        | answered outcome =>
          dsimp only
          rw [@resume_eq env]
          rcases resumed_cases e.program pc₁ regs₁ dst onFail outcome state₂ with
            ⟨pc', regs', state', next⟩ | ⟨fault, state', next⟩
          · rw [next]
            exact .answered turn program enter next
          · rw [next]
            exact .faulted ..
        | entered frame => exact .entered turn program enter
  | ended ending =>
    obtain ⟨fault | outcome, state₁⟩ := ending
    · exact .faulted ..
    · cases callers with
      | nil => exact .finished turn
      | cons w callers =>
        obtain ⟨⟨e', pc₁, regs₁⟩, dst, onFail⟩ := w
        simp only [stepOf, complete]
        rw [@resume_eq env]
        rcases resumed_cases e'.program pc₁ regs₁ dst onFail outcome (leaveRule e outcome state₁)
          with ⟨pc', regs', state', next⟩ | ⟨fault, state', next⟩
        · rw [next]
          exact .returned turn next
        · rw [next]
          exact .faulted ..

/-- What a step that leads to another configuration does. -/
theorem moves_of_step {c c' : Config} (next : step env c = .running c') :
    Moves env c (.running c') := next ▸ moves_step env c

/-! ## From the machine to the runs -/

/-- Steps from a step on, as long as the fuel lasts. -/
def runOn (env : Environment) (fuel : Nat) : Step → Option Result
  | .running c => run env fuel c
  | .finished outcome state => some (outcome, state)

/-- A unit of fuel is a step. -/
theorem run_succ (fuel : Nat) (c : Config) :
    run env (fuel + 1) c = runOn env fuel (step env c) := by
  rw [run]
  cases step env c <;> rfl

/-- A fault leaves the innermost run first. -/
theorem faulted_cons (fault : EngineFault) (e : Entry) (w : Waiting) (callers : List Waiting)
    (state : ParseState) : faulted fault e (w :: callers) state =
      faulted fault w.frame.entry callers (abandon e state) := rfl

/-- Where the machine comes to a result from a turn of a run that is not at a call, the run comes to
an end, and the machine to the result from there. -/
def ComesToEnd (env : Environment) (fuel : Nat) (result : Result) : Prop :=
  ∀ ⦃e : Entry⦄ ⦃callers : List Waiting⦄ ⦃turn : Turn⦄, turn.Settled →
    runOn env fuel (stepOf env e callers turn) = some result →
    ∃ ending, Runs env (Calls env) e.program turn ending ∧ ∃ fuel' ≤ fuel,
      runOn env fuel' (stepOf env e callers (.ended ending)) = some result

/-- Where the machine comes to a result from a call, the call comes to an end, and the machine comes
to the result from the turn behind the call. -/
theorem called_of_runOn {fuel : Nat} {callee : Handle} {name : Option String} {dst : Option Slot}
    {onFail : Label} {result : Result} (ends : ComesToEnd env fuel result)
    (found : runOn env fuel
      (stepOf env e callers (.calling callee name dst onFail pc regs state)) = some result) :
    ∃ turn, turn.Settled ∧
      (∀ ending, Runs env (Calls env) e.program turn ending →
        Runs env (Calls env) e.program (.calling callee name dst onFail pc regs state) ending) ∧
      ∃ fuel' ≤ fuel, runOn env fuel' (stepOf env e callers turn) = some result := by
  simp only [stepOf, call] at found
  cases program : programOf env callee with
  | error fault =>
    rw [program] at found
    have missing : Calls env callee name state (.error fault, state) :=
      calls_iff.mpr (.missing program)
    refine ⟨_, .ended (.error fault, state), ?_, fuel, Nat.le_refl _, found⟩
    rintro _ ⟨⟩
    exact .faulted missing
  | ok q =>
    rw [program] at found
    dsimp only at found
    cases enter : enterRule env q name state with
    | mk admission state₁ =>
      rw [enter] at found
      cases admission with
      | answered outcome =>
        dsimp only at found
        rw [@resume_eq env] at found
        have answered := calls_iff.mpr (Answers.answered program enter)
        exact ⟨_, resumed_settled .., fun _ runs => .called answered runs, fuel, Nat.le_refl _,
          found⟩
      | entered frame =>
        dsimp only at found
        obtain ⟨start, same⟩ := enterRule_entered enter
        rw [start] at found
        obtain ⟨inner, runs, fuel', le, ended⟩ := ends (.at 0 (.fresh q) state₁) found
        rw [same] at runs
        have ran := calls_iff.mpr (Answers.ran program enter runs)
        obtain ⟨fault | outcome, state₂⟩ := inner
        · simp only [stepOf, faulted_cons] at ended
          refine ⟨_, .ended (.error fault, abandon frame.entry state₂), ?_, fuel', le, ended⟩
          rintro _ ⟨⟩
          exact .faulted ran
        · simp only [stepOf, complete] at ended
          rw [@resume_eq env] at ended
          exact ⟨_, resumed_settled .., fun _ rest => .called ran rest, fuel', le, ended⟩

/-- Where the machine comes to a result from a turn that is not at a call, the run comes to an
end. -/
theorem comesToEnd (env : Environment) (fuel : Nat) (result : Result) :
    ComesToEnd env fuel result := by
  induction fuel using Nat.strongRecOn with
  | ind fuel ih =>
  intro e callers turn settled found
  cases settled with
  | ended ending => exact ⟨ending, .done, fuel, Nat.le_refl _, found⟩
  | «at» pc regs state =>
    cases fuel with
    | zero => cases found
    | succ fuel =>
      rw [stepOf, runOn, run_succ, step_eq] at found
      -- Behind the instruction, and behind its call, there is less fuel.
      obtain ⟨turn, settled, leads, fuel', le, found⟩ : ∃ turn, turn.Settled ∧
          (∀ ending, Runs env (Calls env) e.program turn ending →
            Runs env (Calls env) e.program (performed env e.program pc regs state) ending) ∧
          ∃ fuel' ≤ fuel, runOn env fuel' (stepOf env e callers turn) = some result := by
        cases turn : performed env e.program pc regs state with
        | «at» pc₁ regs₁ state₁ =>
          rw [turn] at found
          exact ⟨_, .at pc₁ regs₁ state₁, fun _ runs => runs, fuel, Nat.le_refl _, found⟩
        | ended ending =>
          rw [turn] at found
          exact ⟨_, .ended ending, fun _ runs => runs, fuel, Nat.le_refl _, found⟩
        | calling callee name dst onFail pc₁ regs₁ state₁ =>
          rw [turn] at found
          exact called_of_runOn (ih fuel (Nat.lt_succ_self _)) found
      obtain ⟨ending, runs, fuel'', le', ended⟩ :=
        ih fuel' (Nat.lt_succ_of_le le) settled found
      exact ⟨ending, .step (leads ending runs), fuel'', by omega, ended⟩

/-- A match comes to what the call of its matcher ends with. -/
theorem calls_of_matchRule {fuel : Nat} {h : Handle}
    {result : Except EngineFault (Option Value) × ParseState}
    (found : matchRule env fuel h state = some result) :
    ∃ (value : Option Product → Option Value) (ending : Ending),
      Calls env h none state ending ∧ result = (ending.1.map value, ending.2) := by
  unfold matchRule at found
  cases program : programOf env h with
  | error fault =>
    rw [program] at found
    cases found
    exact ⟨fun _ => none, _, calls_iff.mpr (.missing program), rfl⟩
  | ok p =>
    rw [program] at found
    dsimp only at found
    refine ⟨matchValue p, ?_⟩
    cases enter : enterRule env p none state with
    | mk admission state₁ =>
      rw [enter] at found
      cases admission with
      | answered outcome =>
        cases found
        exact ⟨_, calls_iff.mpr (.answered program enter), rfl⟩
      | entered frame =>
        dsimp only at found
        obtain ⟨result', ran, rfl⟩ := Option.map_eq_some_iff.mp found
        obtain ⟨start, same⟩ := enterRule_entered enter
        rw [start] at ran
        obtain ⟨inner, runs, fuel', le, ended⟩ :=
          comesToEnd env fuel result' (.at 0 (.fresh p) state₁) ran
        rw [same] at runs
        refine ⟨_, calls_iff.mpr (.ran program enter runs), ?_⟩
        obtain ⟨fault | outcome, state₂⟩ := inner <;> cases ended <;> rfl

end Packrat.Machine
