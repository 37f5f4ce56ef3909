import Packrat.Machine.Run

/-!
# Runs of one program

The machine keeps the runs that wait for a call on a list. Here a run of one program is looked at
on its own: a call is one event of it, and how calls end is a parameter.

* `Turn`: where a run of a program is: at an instruction, at a call, or at its end.
* `Runs`: the ends that a run can come to, where `calls` says how calls can end.
* `Answers`, `CallsWithin`, `Calls`: how a call can end, by the nesting of calls below it.
* `Ends`: the ends that the machine comes to.

Main statements: `ends_of_runs` and `matchRule_of_calls` say that the machine comes to the ends of
runs and calls; `Runs.deterministic` and `Calls.deterministic` that there is one at most.
-/

namespace Packrat.Machine

/-- How a run or a call ends: with an outcome or a fault, and in a parse state. -/
abbrev Ending := Except EngineFault (Option Product) × ParseState

/-- How the call of a matcher for a slot in a parse state can end. -/
abbrev CallRelation := Handle → Option String → ParseState → Ending → Prop

/-! ## Turns -/

/-- Where a run of a program is. -/
inductive Turn where
  /-- At the instruction at a program counter. -/
  | at (pc : Nat) (regs : Registers) (state : ParseState)
  /-- At a call; the program counter is that of the instruction after it. -/
  | calling (callee : Handle) (name : Option String) (dst : Option Slot) (onFail : Label)
      (pc : Nat) (regs : Registers) (state : ParseState)
  /-- At its end. -/
  | ended (ending : Ending)

/-- Where the instruction at a program counter leads a run. -/
def Control.turn (pc : Nat) (regs : Registers) (state : ParseState) : Control → Turn
  | .next => .at (pc + 1) regs state
  | .goto pc => .at pc regs state
  | .ret outcome => .ended (.ok outcome, state)
  | .call callee name dst onFail => .calling callee name dst onFail (pc + 1) regs state

/-- Where a run is once an instruction is performed. -/
def performed (env : Environment) (p : Program) (pc : Nat) (regs : Registers) :
    ParseState → Turn
  | ⟨cursor, book⟩ =>
    match p.instruction pc with
    | .error fault => .ended (.error fault, ⟨cursor, book⟩)
    | .ok i =>
      match execute env p i ⟨regs, cursor⟩ with
      | .error fault ⟨_, cursor⟩ => .ended (.error fault, ⟨cursor, book⟩)
      | .ok control ⟨regs, cursor⟩ => control.turn pc regs ⟨cursor, book⟩

/-- Where a run is once its call has ended with an outcome. -/
def resumed (p : Program) (pc : Nat) (regs : Registers) (dst : Option Slot) (onFail : Label)
    (outcome : Option Product) : ParseState → Turn
  | ⟨cursor, book⟩ =>
    match outcome with
    | none =>
      match p.target onFail with
      | .ok pc => .at pc regs ⟨cursor, book⟩
      | .error fault => .ended (.error fault, ⟨cursor, book⟩)
    | some product =>
      match storeProduct p dst product ⟨regs, cursor⟩ with
      | .ok () ⟨regs, cursor⟩ => .at pc regs ⟨cursor, book⟩
      | .error fault ⟨_, cursor⟩ => .ended (.error fault, ⟨cursor, book⟩)

/-! ## Runs and calls -/

section

variable (env : Environment)

/-- The ends that a run of a program can come to, where `calls` says how its calls can end. -/
inductive Runs (calls : CallRelation) (p : Program) : Turn → Ending → Prop where
  /-- An instruction is performed. -/
  | step {pc : Nat} {regs : Registers} {state : ParseState} {ending : Ending}
      (rest : Runs calls p (performed env p pc regs state) ending) :
      Runs calls p (.at pc regs state) ending
  /-- A call ends with a fault. -/
  | faulted {callee : Handle} {name : Option String} {dst : Option Slot} {onFail : Label}
      {pc : Nat} {regs : Registers} {state state' : ParseState} {fault : EngineFault}
      (call : calls callee name state (.error fault, state')) :
      Runs calls p (.calling callee name dst onFail pc regs state) (.error fault, state')
  /-- A call ends with an outcome. -/
  | called {callee : Handle} {name : Option String} {dst : Option Slot} {onFail : Label}
      {pc : Nat} {regs : Registers} {state state' : ParseState} {outcome : Option Product}
      {ending : Ending} (call : calls callee name state (.ok outcome, state'))
      (rest : Runs calls p (resumed p pc regs dst onFail outcome state') ending) :
      Runs calls p (.calling callee name dst onFail pc regs state) ending
  /-- The run has ended. -/
  | done {ending : Ending} : Runs calls p (.ended ending) ending

/-- The end of a call whose run has come to an end. -/
def closed (e : Entry) : Ending → Ending
  | (.ok outcome, state) => (.ok outcome, leaveRule e outcome state)
  | (.error fault, state) => (.error fault, abandon e state)

/-- How a call can end, where `calls` says how the calls of its run can end. -/
inductive Answers (calls : CallRelation) : CallRelation where
  /-- There is no program. -/
  | missing {h : Handle} {name : Option String} {state : ParseState} {fault : EngineFault}
      (program : programOf env h = .error fault) : Answers calls h name state (.error fault, state)
  /-- The guard or the memo table answers. -/
  | answered {h : Handle} {name : Option String} {state state' : ParseState} {p : Program}
      {outcome : Option Product} (program : programOf env h = .ok p)
      (enter : enterRule env p name state = (.answered outcome, state')) :
      Answers calls h name state (.ok outcome, state')
  /-- The program runs. -/
  | ran {h : Handle} {name : Option String} {state state' : ParseState} {p : Program}
      {frame : Frame} {ending : Ending} (program : programOf env h = .ok p)
      (enter : enterRule env p name state = (.entered frame, state'))
      (runs : Runs env calls p (.at 0 (.fresh p) state') ending) :
      Answers calls h name state (closed frame.entry ending)

/-- How a call can end with calls nested to some depth below it. -/
def CallsWithin : (depth : Nat) → CallRelation
  | 0 => fun _ _ _ _ => False
  | depth + 1 => Answers env (CallsWithin depth)

/-- How a call can end. -/
def Calls (h : Handle) (name : Option String) (state : ParseState) (ending : Ending) : Prop :=
  ∃ depth, CallsWithin env depth h name state ending

end

variable {env : Environment}

/-! ### More calls -/

/-- With more ways for calls to end there are no fewer runs. -/
theorem Runs.mono {calls calls' : CallRelation} {p : Program} {turn : Turn} {ending : Ending}
    (more : ∀ h name state ending, calls h name state ending → calls' h name state ending)
    (runs : Runs env calls p turn ending) : Runs env calls' p turn ending := by
  induction runs with
  | step _ ih => exact .step ih
  | faulted call => exact .faulted (more _ _ _ _ call)
  | called call _ ih => exact .called (more _ _ _ _ call) ih
  | done => exact .done

/-- With more ways for calls to end there are no fewer answers. -/
theorem Answers.mono {calls calls' : CallRelation} {h : Handle} {name : Option String}
    {state : ParseState} {ending : Ending}
    (more : ∀ h name state ending, calls h name state ending → calls' h name state ending)
    (answers : Answers env calls h name state ending) : Answers env calls' h name state ending := by
  cases answers with
  | missing program => exact .missing program
  | answered program enter => exact .answered program enter
  | ran program enter runs => exact .ran program enter (runs.mono more)

/-- Calls may nest deeper. -/
theorem CallsWithin.mono {depth depth' : Nat} (le : depth ≤ depth') {h : Handle}
    {name : Option String} {state : ParseState} {ending : Ending}
    (call : CallsWithin env depth h name state ending) :
    CallsWithin env depth' h name state ending := by
  induction depth generalizing depth' h name state ending with
  | zero => exact call.elim
  | succ depth ih =>
    cases depth' with
    | zero => omega
    | succ depth' =>
      exact Answers.mono (fun _ _ _ _ inner => ih (by omega) inner) call

/-- A run makes finitely many calls, so one bound does for all of them. -/
theorem Runs.bounded {calls : Nat → CallRelation}
    (mono : ∀ {depth depth' : Nat}, depth ≤ depth' → ∀ {h name state ending},
      calls depth h name state ending → calls depth' h name state ending)
    {p : Program} {turn : Turn} {ending : Ending}
    (runs : Runs env (fun h name state ending => ∃ depth, calls depth h name state ending) p turn
      ending) : ∃ depth, Runs env (calls depth) p turn ending := by
  induction runs with
  | step _ ih =>
    obtain ⟨depth, rest⟩ := ih
    exact ⟨depth, .step rest⟩
  | faulted call =>
    obtain ⟨depth, call⟩ := call
    exact ⟨depth, .faulted call⟩
  | called call _ ih =>
    obtain ⟨depth, call⟩ := call
    obtain ⟨depth', rest⟩ := ih
    refine ⟨max depth depth', .called (mono (Nat.le_max_left _ _) call) (rest.mono ?_)⟩
    exact fun _ _ _ _ inner => mono (Nat.le_max_right _ _) inner
  | done => exact ⟨0, .done⟩

/-- The calls of a run are nested to some depth. -/
theorem Runs.within {p : Program} {turn : Turn} {ending : Ending}
    (runs : Runs env (Calls env) p turn ending) :
    ∃ depth, Runs env (CallsWithin env depth) p turn ending :=
  runs.bounded CallsWithin.mono

/-- What calls end with is what the calls below them make of them. -/
theorem calls_iff {h : Handle} {name : Option String} {state : ParseState} {ending : Ending} :
    Calls env h name state ending ↔ Answers env (Calls env) h name state ending := by
  constructor
  · rintro ⟨_ | depth, call⟩
    · exact call.elim
    · exact Answers.mono (fun _ _ _ _ inner => ⟨depth, inner⟩) call
  · intro answers
    cases answers with
    | missing program => exact ⟨1, .missing program⟩
    | answered program enter => exact ⟨1, .answered program enter⟩
    | ran program enter runs =>
      obtain ⟨depth, runs⟩ := runs.within
      exact ⟨depth + 1, .ran program enter runs⟩

/-! ### One end at most -/

/-- Runs whose calls end alike come to the same end, by calls that end in both ways. -/
theorem Runs.meet {calls calls' : CallRelation} {p : Program} {turn : Turn}
    {ending ending' : Ending} (runs : Runs env calls p turn ending)
    (runs' : Runs env calls' p turn ending')
    (alike : ∀ h name state e e', calls h name state e → calls' h name state e' → e = e') :
    ending = ending' ∧
      Runs env (fun h name state e => calls h name state e ∧ calls' h name state e) p turn
        ending := by
  induction runs with
  | step _ ih =>
    cases runs' with
    | step rest' => exact ⟨(ih rest').1, .step (ih rest').2⟩
  | faulted call =>
    cases runs' with
    | faulted call' =>
      have same := alike _ _ _ _ _ call call'
      exact ⟨same, .faulted ⟨call, same ▸ call'⟩⟩
    | called call' => cases alike _ _ _ _ _ call call'
  | called call _ ih =>
    cases runs' with
    | faulted call' => cases alike _ _ _ _ _ call call'
    | called call' rest' =>
      cases alike _ _ _ _ _ call call'
      exact ⟨(ih rest').1, .called ⟨call, call'⟩ (ih rest').2⟩
  | done =>
    cases runs' with
    | done => exact ⟨rfl, .done⟩

/-- A run comes to one end at most if its calls do. -/
theorem Runs.deterministic {calls : CallRelation} {p : Program} {turn : Turn}
    {ending ending' : Ending} (runs : Runs env calls p turn ending)
    (runs' : Runs env calls p turn ending')
    (alike : ∀ h name state e e', calls h name state e → calls h name state e' → e = e') :
    ending = ending' :=
  (runs.meet runs' alike).1

/-- A call of some nesting ends in one way at most. -/
theorem CallsWithin.deterministic {depth : Nat} {h : Handle} {name : Option String}
    {state : ParseState} {ending ending' : Ending}
    (call : CallsWithin env depth h name state ending)
    (call' : CallsWithin env depth h name state ending') : ending = ending' := by
  induction depth generalizing h name state ending ending' with
  | zero => exact call.elim
  | succ depth ih =>
    cases call with
    | missing program =>
      cases call' with
      | missing program' => cases program.symm.trans program'; rfl
      | answered program' => cases program.symm.trans program'
      | ran program' => cases program.symm.trans program'
    | answered program enter =>
      cases call' with
      | missing program' => cases program.symm.trans program'
      | answered program' enter' =>
        cases program.symm.trans program'
        cases enter.symm.trans enter'
        rfl
      | ran program' enter' =>
        cases program.symm.trans program'
        cases enter.symm.trans enter'
    | ran program enter runs =>
      cases call' with
      | missing program' => cases program.symm.trans program'
      | answered program' enter' =>
        cases program.symm.trans program'
        cases enter.symm.trans enter'
      | ran program' enter' runs' =>
        cases program.symm.trans program'
        cases enter.symm.trans enter'
        rw [runs.deterministic runs' (fun _ _ _ _ _ first second => ih first second)]

/-- A call ends in one way at most. -/
theorem Calls.deterministic {h : Handle} {name : Option String} {state : ParseState}
    {ending ending' : Ending} (call : Calls env h name state ending)
    (call' : Calls env h name state ending') : ending = ending' := by
  obtain ⟨depth, call⟩ := call
  obtain ⟨depth', call'⟩ := call'
  exact (call.mono (Nat.le_max_left _ _)).deterministic (call'.mono (Nat.le_max_right _ _))

/-! ## The machine -/

/-- What the machine comes to. -/
abbrev Result := Except EngineFault (Option Product) × ParseState

/-- The results that the machine comes to from a step. -/
def Ends (env : Environment) : Step → Result → Prop
  | .finished outcome state, result => (outcome, state) = result
  | .running c, result => ∃ fuel, run env fuel c = some result

/-- The step that the machine is at when a run is at a turn, with other runs waiting. -/
def stepOf (env : Environment) (e : Entry) (callers : List Waiting) : Turn → Step
  | .at pc regs state => .running ⟨state, ⟨e, pc, regs⟩, callers⟩
  | .calling callee name dst onFail pc regs state =>
    call env ⟨⟨e, pc, regs⟩, dst, onFail⟩ callers callee name state
  | .ended (.ok outcome, state) => complete e callers outcome state
  | .ended (.error fault, state) => faulted fault e callers state

/-- A result that the machine comes to after a step it comes to from the configuration before. -/
theorem ends_step {c : Config} {result : Result} (h : Ends env (step env c) result) :
    Ends env (.running c) result := by
  cases next : step env c with
  | running c' =>
    rw [next] at h
    obtain ⟨fuel, h⟩ := h
    exact ⟨fuel + 1, by rw [run, next]; exact h⟩
  | finished outcome state =>
    rw [next] at h
    exact ⟨1, by rw [run, next]; exact congrArg some h⟩

/-- A step of the machine performs an instruction of the running program. -/
theorem step_eq (e : Entry) (callers : List Waiting) (pc : Nat) (regs : Registers)
    (state : ParseState) :
    step env ⟨state, ⟨e, pc, regs⟩, callers⟩ =
      stepOf env e callers (performed env e.program pc regs state) := by
  obtain ⟨cursor, book⟩ := state
  simp only [step, performed]
  cases e.program.instruction pc with
  | error fault => rfl
  | ok i =>
    dsimp only
    cases execute env e.program i ⟨regs, cursor⟩ with
    | error fault regs => rfl
    | ok control regs => cases control <;> rfl

/-- A run that waited goes on where the end of its call leads it. -/
theorem resume_eq (e : Entry) (pc : Nat) (regs : Registers) (dst : Option Slot) (onFail : Label)
    (callers : List Waiting) (outcome : Option Product) (state : ParseState) :
    resume ⟨⟨e, pc, regs⟩, dst, onFail⟩ callers outcome state =
      stepOf env e callers (resumed e.program pc regs dst onFail outcome state) := by
  obtain ⟨cursor, book⟩ := state
  simp only [resume, resumed]
  cases outcome with
  | none => cases e.program.target onFail <;> rfl
  | some product =>
    dsimp only
    cases storeProduct e.program dst product ⟨regs, cursor⟩ <;> rfl

/-- A program that is entered runs from its first instruction on registers of its own. -/
theorem enterRule_entered {p : Program} {name : Option String} {state state' : ParseState}
    {frame : Frame} (h : enterRule env p name state = (.entered frame, state')) :
    frame = ⟨frame.entry, 0, .fresh p⟩ ∧ frame.entry.program = p := by
  unfold enterRule at h
  dsimp only at h
  split at h
  · cases h
  · split at h <;> cases h
    exact ⟨rfl, rfl⟩

/-- The machine comes from a turn of a run to what it comes to from the end of the run. -/
theorem ends_of_runs {depth : Nat} {e : Entry} {callers : List Waiting} {turn : Turn}
    {ending : Ending} {result : Result}
    (runs : Runs env (CallsWithin env depth) e.program turn ending)
    (h : Ends env (stepOf env e callers (.ended ending)) result) :
    Ends env (stepOf env e callers turn) result := by
  induction depth generalizing e callers turn ending result with
  | zero =>
    induction runs with
    | step _ ih => exact ends_step (step_eq .. ▸ ih h)
    | faulted call => exact call.elim
    | called call => exact call.elim
    | done => exact h
  | succ depth ihDepth =>
    -- The call's own run is handled by the outer induction, the rest of this run by the inner one.
    have ends_call : ∀ {callee name dst onFail pc regs state inner},
        CallsWithin env (depth + 1) callee name state inner →
        Ends env (match inner with
          | (.ok outcome, state) => resume ⟨⟨e, pc, regs⟩, dst, onFail⟩ callers outcome state
          | (.error fault, state) => faulted fault e callers state) result →
        Ends env (call env ⟨⟨e, pc, regs⟩, dst, onFail⟩ callers callee name state) result := by
      intro callee name dst onFail pc regs state inner answers hInner
      unfold call
      cases answers with
      | missing program =>
        rw [program]
        exact hInner
      | answered program enter =>
        simp only [program, enter]
        exact hInner
      | @ran _ _ _ _ p frame ending program enter runs =>
        obtain ⟨start, same⟩ := enterRule_entered enter
        simp only [program, enter]
        rw [start]
        rw [← same] at runs ⊢
        refine ihDepth runs ?_
        obtain ⟨_ | _, _⟩ := ending <;> exact hInner
    induction runs with
    | step _ ih => exact ends_step (step_eq .. ▸ ih h)
    | faulted call => exact ends_call call h
    | called call _ ih =>
      refine ends_call call ?_
      dsimp only
      rw [resume_eq]
      exact ih h
    | done => exact h

/-- More fuel keeps a result. -/
theorem run_mono {fuel fuel' : Nat} (le : fuel ≤ fuel') {c : Config} {result : Result}
    (h : run env fuel c = some result) : run env fuel' c = some result := by
  induction fuel generalizing fuel' c with
  | zero => simp [run] at h
  | succ fuel ih =>
    cases fuel' with
    | zero => omega
    | succ fuel' =>
      rw [run] at h ⊢
      cases next : step env c with
      | running c' =>
        rw [next] at h
        exact ih (by omega) h
      | finished outcome state =>
        rw [next] at h
        exact h

/-- What a call of a matcher makes of a match of it. -/
def matched (p : Program) : Ending → Except EngineFault (Option Value) × ParseState
  | (ending, state) => (ending.map (matchValue p), state)

/-- More fuel keeps the result of a match. -/
theorem matchRule_mono {fuel fuel' : Nat} (le : fuel ≤ fuel') {h : Handle} {state : ParseState}
    {result : Except EngineFault (Option Value) × ParseState}
    (found : matchRule env fuel h state = some result) :
    matchRule env fuel' h state = some result := by
  unfold matchRule at found ⊢
  cases program : programOf env h with
  | error fault =>
    rw [program] at found
    exact found
  | ok p =>
    rw [program] at found
    dsimp only at found ⊢
    generalize enterRule env p none state = entered at found ⊢
    obtain ⟨_ | frame, state'⟩ := entered
    · exact found
    · dsimp only at found ⊢
      rw [Option.map_eq_some_iff] at found ⊢
      obtain ⟨result', ran, eq⟩ := found
      exact ⟨result', run_mono le ran, eq⟩

/-- A match comes to the end that the call of its matcher comes to. -/
theorem matchRule_of_calls {h : Handle} {state : ParseState} {p : Program} {ending : Ending}
    (program : programOf env h = .ok p) (call : Calls env h none state ending) :
    ∃ fuel, matchRule env fuel h state = some (matched p ending) := by
  unfold matchRule
  simp only [program]
  obtain ⟨_ | depth, call⟩ := call
  · exact call.elim
  · cases call with
    | missing program' => cases program.symm.trans program'
    | answered program' enter =>
      cases program.symm.trans program'
      exact ⟨0, by rw [enter]; rfl⟩
    | @ran _ _ _ _ _ frame inner program' enter runs =>
      cases program.symm.trans program'
      obtain ⟨start, same⟩ := enterRule_entered enter
      subst same
      have ends : Ends env (stepOf env frame.entry [] (.ended inner))
          (closed frame.entry inner) := by
        obtain ⟨_ | _, _⟩ := inner <;> rfl
      obtain ⟨fuel, ran⟩ := ends_of_runs runs ends
      refine ⟨fuel, ?_⟩
      rw [enter]
      dsimp only
      rw [start, ran]
      rfl

end Packrat.Machine
