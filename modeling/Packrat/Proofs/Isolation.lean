import Packrat.Proofs.Restoration
import Packrat.Proofs.Trace

/-!
# Runs on shared stacks

The whole machine with the registers of all runs on two stacks: a call makes room for the registers
of its program above those that are there, and when the run has ended, in whatever way, the stacks
are cut back. Calls then end as they do with registers of their own for each run, the stacks are
as they were, and what is below the registers of a run has no influence on it.

* `Stacked`: a parse state with the stacks. `StackedTurn`: where a run on the stacks is.
* `Stacks.interpret`: a run of a program on the stacks. `Stacks.call`: a call.
* `Occurs`: the parse states in which calls are made.

Main statements: `call_above`, `exists_call_above` and `call_isolated`.
-/

namespace Packrat.Machine

/-! ## The machine on the stacks -/

/-- A parse state with the stacks that hold the registers of all runs. -/
structure Stacked where
  /-- The stacks. -/
  regs : Registers
  /-- The parse state. -/
  state : ParseState

/-- How a run or a call ends on the stacks. -/
abbrev StackedEnding := Except Trouble (Option Product) × Stacked

/-- Where a run on the stacks is. -/
inductive StackedTurn where
  /-- At the instruction at a program counter. -/
  | at (pc : Nat) (s : Stacked)
  /-- At a call; the program counter is that of the instruction after it. -/
  | calling (callee : Handle) (name : Option String) (dst : Option Slot) (onFail : Label)
      (pc : Nat) (s : Stacked)
  /-- At its end. -/
  | ended (ending : StackedEnding)

namespace Stacks

section

variable (env : Environment) (b : Base) (p : Program)

/-- Where a run is once an instruction is performed. -/
def performed (pc : Nat) : Stacked → StackedTurn
  | ⟨regs, ⟨cursor, book⟩⟩ =>
    match p.instruction pc with
    | .error fault => .ended (.error (.fault fault), ⟨regs, ⟨cursor, book⟩⟩)
    | .ok i =>
      match execute b p env i ⟨regs, cursor⟩ with
      | .error trouble ⟨regs, cursor⟩ => .ended (.error trouble, ⟨regs, ⟨cursor, book⟩⟩)
      | .ok control ⟨regs, cursor⟩ =>
        match control with
        | .next => .at (pc + 1) ⟨regs, ⟨cursor, book⟩⟩
        | .goto pc => .at pc ⟨regs, ⟨cursor, book⟩⟩
        | .ret outcome => .ended (.ok outcome, ⟨regs, ⟨cursor, book⟩⟩)
        | .call callee name dst onFail =>
          .calling callee name dst onFail (pc + 1) ⟨regs, ⟨cursor, book⟩⟩

/-- Where a run is once its call has ended with an outcome. -/
def resumed (pc : Nat) (dst : Option Slot) (onFail : Label) (outcome : Option Product) :
    Stacked → StackedTurn
  | ⟨regs, ⟨cursor, book⟩⟩ =>
    match outcome with
    | none =>
      match p.target onFail with
      | .ok pc => .at pc ⟨regs, ⟨cursor, book⟩⟩
      | .error fault => .ended (.error (.fault fault), ⟨regs, ⟨cursor, book⟩⟩)
    | some product =>
      match storeProduct b p dst product ⟨regs, cursor⟩ with
      | .ok () ⟨regs, cursor⟩ => .at pc ⟨regs, ⟨cursor, book⟩⟩
      | .error trouble ⟨regs, cursor⟩ => .ended (.error trouble, ⟨regs, ⟨cursor, book⟩⟩)

/-- Run a program from a turn on, where `call` is what calls do. Nothing if the fuel does not
last. -/
def interpret (call : Handle → Option String → Stacked → Option StackedEnding) :
    (fuel : Nat) → StackedTurn → Option StackedEnding
  | 0, _ => none
  | _ + 1, .ended ending => some ending
  | fuel + 1, .at pc s => interpret call fuel (performed env b p pc s)
  | fuel + 1, .calling callee name dst onFail pc s =>
    match call callee name s with
    | none => none
    | some (.error trouble, s) => some (.error trouble, s)
    | some (.ok outcome, s) => interpret call fuel (resumed b p pc dst onFail outcome s)

end

/-- The stacks with room for the registers of a program: zeros and nulls. -/
def grow (p : Program) (regs : Registers) : Registers :=
  ⟨regs.ints ++ Array.replicate p.intSlots 0, regs.objs ++ Array.replicate p.objSlots .null⟩

/-- The stacks cut back to a base. -/
def cut (b : Base) (regs : Registers) : Registers :=
  ⟨regs.ints.take b.ints, regs.objs.take b.objs⟩

/-- The last stages of a call whose program has ended, in whatever way: the stacks are cut back. -/
def leave (b : Base) (e : Entry) : StackedEnding → StackedEnding
  | (.ok outcome, ⟨regs, state⟩) => (.ok outcome, ⟨cut b regs, leaveRule e outcome state⟩)
  | (.error trouble, ⟨regs, state⟩) => (.error trouble, ⟨cut b regs, abandon e state⟩)

/-- Call the rule of a matcher. The fuel bounds the nesting of calls and the length of runs. -/
def call (env : Environment) :
    (fuel : Nat) → Handle → Option String → Stacked → Option StackedEnding
  | 0 => fun _ _ _ => none
  | fuel + 1 => fun h name s =>
    match programOf env h with
    | .error fault => some (.error (.fault fault), s)
    | .ok p =>
      match enterRule env p name s.state with
      | (.answered outcome, state) => some (.ok outcome, ⟨s.regs, state⟩)
      | (.entered frame, state) =>
        (interpret env s.regs.base p (call env fuel) fuel (.at 0 ⟨grow p s.regs, state⟩)).map
          (leave s.regs.base frame.entry)

end Stacks

/-! ## Runs on top of the stacks -/

variable {env : Environment} {p : Program} {below : Registers} {h : Handle}
  {name : Option String} {s : ParseState} {ending : Ending}

/-- How a call ends on the stacks that ends like this with registers of its own for each run. -/
def Ending.over (below : Registers) : Ending → StackedEnding
  | (outcome, state) => (outcome.mapError .fault, ⟨below, state⟩)

/-- A run on the stacks is where a run with registers of its own is, with these registers on top. -/
inductive Turn.Over (below : Registers) : StackedTurn → Turn → Prop where
  /-- At an instruction. -/
  | at {pc : Nat} {regs : Registers} {s : ParseState} :
      Over below (.at pc ⟨below.onTop regs, s⟩) (.at pc regs s)
  /-- At a call. -/
  | calling {callee : Handle} {name : Option String} {dst : Option Slot} {onFail : Label}
      {pc : Nat} {regs : Registers} {s : ParseState} :
      Over below (.calling callee name dst onFail pc ⟨below.onTop regs, s⟩)
        (.calling callee name dst onFail pc regs s)
  /-- At the end. -/
  | ended (regs : Registers) (ending : Ending) :
      Over below (.ended (ending.over (below.onTop regs))) (.ended ending)

/-- An instruction does the same on the shared stack as on registers of its own. -/
theorem over_performed (below : Registers) {pc : Nat} {regs : Registers} (fits : regs.Fits p)
    (placed : Placed env s) :
    Turn.Over below (Stacks.performed env below.base p pc ⟨below.onTop regs, s⟩)
      (performed env p pc regs s) := by
  obtain ⟨cursor, book⟩ := s
  unfold Stacks.performed performed
  dsimp only
  cases p.instruction pc with
  | error fault => exact .ended regs (.error fault, ⟨cursor, book⟩)
  | ok i =>
    dsimp only
    have framed := @framed_execute env p below i regs cursor fits placed.pos
    cases ran : execute env p i ⟨regs, cursor⟩ with
    | error fault after =>
      rw [ran] at framed
      rw [framed.of_error.1]
      exact .ended after.regs (.error fault, ⟨after.cursor, book⟩)
    | ok control after =>
      rw [ran] at framed
      rw [framed.of_ok.1]
      cases control with
      | next => exact .at
      | goto pc => exact .at
      | call => exact .calling
      | ret outcome => exact .ended after.regs (.ok outcome, ⟨after.cursor, book⟩)

/-- A run goes on behind a call alike on the shared stack and on registers of its own. -/
theorem over_resumed (below : Registers) {pc : Nat} {regs : Registers} (fits : regs.Fits p)
    (placed : Placed env s) (dst : Option Slot) (onFail : Label) (outcome : Option Product) :
    Turn.Over below (Stacks.resumed below.base p pc dst onFail outcome ⟨below.onTop regs, s⟩)
      (resumed p pc regs dst onFail outcome s) := by
  obtain ⟨cursor, book⟩ := s
  unfold Stacks.resumed resumed
  cases outcome with
  | none =>
    dsimp only
    cases p.target onFail with
    | error fault => exact .ended regs (.error fault, ⟨cursor, book⟩)
    | ok pc => exact .at
  | some product =>
    dsimp only
    have framed := @framed_storeProduct env p below dst product regs cursor fits placed.pos
    cases stored : storeProduct p dst product ⟨regs, cursor⟩ with
    | error fault after =>
      rw [stored] at framed
      rw [framed.of_error.1]
      exact .ended after.regs (.error fault, ⟨after.cursor, book⟩)
    | ok _ after =>
      rw [stored] at framed
      rw [framed.of_ok.1]
      exact .at

/-- What calls do on the stacks is one of the ways in which calls end with registers of their own
for each run, whatever is on the stacks, if they come to an end at all. -/
def Keeps (env : Environment) (call : Handle → Option String → Stacked → Option StackedEnding)
    (calls : CallRelation) : Prop :=
  ∀ (h : Handle) (name : Option String) (s : ParseState), Placed env s →
    ∃ found : Option Ending, (∀ below, call h name ⟨below, s⟩ = found.map (Ending.over below)) ∧
      ∀ ending, found = some ending → calls h name s ending ∧ Placed env ending.2

/-- A run on the stacks comes to what a run with registers of its own does. -/
theorem interpret_above {call : Handle → Option String → Stacked → Option StackedEnding}
    {calls : CallRelation} (keeps : Keeps env call calls) (fuel : Nat) {turn : Turn}
    (sound : turn.Sound env p) : ∃ found : Option Ending,
      (∀ below stacked, Turn.Over below stacked turn → ∃ top : Registers,
        Stacks.interpret env below.base p call fuel stacked =
          found.map (Ending.over (below.onTop top))) ∧
      ∀ ending, found = some ending → Runs env calls p turn ending ∧ Placed env ending.2 := by
  induction fuel generalizing turn with
  | zero => exact ⟨none, fun _ _ _ => ⟨⟨#[], #[]⟩, rfl⟩, nofun⟩
  | succ fuel ih =>
    cases sound with
    | @«at» pc regs s fits placed =>
      obtain ⟨found, same, sound'⟩ := ih (@sound_performed env p s pc regs fits placed)
      refine ⟨found, fun below stacked above => ?_, fun ending isFound => ?_⟩
      · cases above with
        | «at» => exact same below _ (over_performed below fits placed)
      · obtain ⟨runs, placed'⟩ := sound' ending isFound
        exact ⟨.step runs, placed'⟩
    | @calling callee name dst onFail pc regs s fits placed =>
      -- What the call comes to on the stacks is known; the induction does the rest of the run.
      obtain ⟨called, alike, ends⟩ := keeps callee name s placed
      cases called with
      | none =>
        refine ⟨none, fun below stacked above => ?_, nofun⟩
        cases above with
        | calling =>
          rw [Stacks.interpret, alike]
          exact ⟨regs, rfl⟩
      | some inner =>
        obtain ⟨calls, placed'⟩ := ends inner rfl
        obtain ⟨fault | outcome, s'⟩ := inner
        · refine ⟨some (.error fault, s'), fun below stacked above => ?_, fun ending isFound => ?_⟩
          · cases above with
            | calling =>
              rw [Stacks.interpret, alike]
              exact ⟨regs, rfl⟩
          · cases isFound
            exact ⟨.faulted calls, placed'⟩
        · obtain ⟨found, same, sound'⟩ :=
            ih (@sound_resumed env p s' pc regs fits placed' dst onFail outcome)
          refine ⟨found, fun below stacked above => ?_, fun ending isFound => ?_⟩
          · cases above with
            | calling =>
              rw [Stacks.interpret, alike]
              exact same below _ (over_resumed below fits placed' dst onFail outcome)
          · obtain ⟨runs, placed''⟩ := sound' ending isFound
            exact ⟨.called calls runs, placed''⟩
    | @ended ending placed =>
      refine ⟨some ending, fun below stacked above => ?_, fun ending' isFound => ?_⟩
      · cases above with
        | ended regs => exact ⟨regs, rfl⟩
      · cases isFound
        exact ⟨.done, placed⟩

/-! ## Calls -/

/-- A run that begins has fresh registers on top of the stack. -/
theorem grow_eq (p : Program) (below : Registers) :
    Stacks.grow p below = below.onTop (.fresh p) := rfl

/-- Cutting the stacks back takes away what was on top. -/
theorem cut_onTop (below top : Registers) : Stacks.cut below.base (below.onTop top) = below := by
  simp [Stacks.cut, Registers.onTop, Registers.base]

/-- A call leaves the stacks as they were. -/
theorem leave_over (e : Entry) (below top : Registers) (found : Option Ending) :
    (found.map (Ending.over (below.onTop top))).map (Stacks.leave below.base e) =
      (found.map (closed e)).map (Ending.over below) := by
  cases found with
  | none => rfl
  | some ending =>
    obtain ⟨fault | outcome, s⟩ := ending <;>
      simp [Ending.over, Except.mapError, Stacks.leave, closed, cut_onTop]

/-- A call on the stacks ends as a call with registers of its own for each run, and the stacks are
as they were. -/
theorem call_above (env : Environment) (fuel : Nat) :
    Keeps env (Stacks.call env fuel) (CallsWithin env fuel) := by
  induction fuel with
  | zero => exact fun _ _ _ _ => ⟨none, fun _ => rfl, nofun⟩
  | succ fuel ih =>
    intro h name s placed
    have whole (ending : Ending) (call : CallsWithin env (fuel + 1) h name s ending) :
        CallsWithin env (fuel + 1) h name s ending ∧ Placed env ending.2 :=
      ⟨call, call.placed placed⟩
    unfold Stacks.call
    cases program : programOf env h with
    | error fault =>
      refine ⟨some (.error fault, s), fun _ => rfl, fun ending isFound => ?_⟩
      cases isFound
      exact whole _ (.missing program)
    | ok p =>
      cases enter : enterRule env p name s with
      | mk admission s' =>
        cases admission with
        | answered outcome =>
          refine ⟨some (.ok outcome, s'), fun _ => by simp [enter, Ending.over, Except.mapError],
            fun ending isFound => ?_⟩
          cases isFound
          exact whole _ (.answered program enter)
        | entered frame =>
          obtain ⟨_, _, _, rfl⟩ := begun_of_enterRule enter
          obtain ⟨found, same, sound⟩ := interpret_above ih fuel
            (@Turn.Sound.at env p 0 _ _ (Registers.fits_fresh p) placed.begun)
          refine ⟨found.map (closed frame.entry), fun below => ?_, fun ending isFound => ?_⟩
          · obtain ⟨top, ran⟩ := same below _ .at
            simp only [enter]
            rw [grow_eq, ran]
            exact leave_over frame.entry below top found
          · obtain ⟨inner, isInner, rfl⟩ := Option.map_eq_some_iff.mp isFound
            exact whole _ (.ran program enter (sound inner isInner).1)

/-- A run with registers of its own comes to an end on the stacks, too, with fuel enough. -/
theorem exists_interpret_above {calls : CallRelation} {turn : Turn}
    (below : ∀ h name s e, Placed env s → calls h name s e → Placed env e.2 ∧
      ∃ enough, ∀ fuel ≥ enough, ∀ below, Stacks.call env fuel h name ⟨below, s⟩ =
        some (e.over below))
    (runs : Runs env calls p turn ending) (sound : turn.Sound env p) :
    ∃ enough, ∀ fuel ≥ enough, ∀ fuel' ≥ enough, ∀ below stacked, Turn.Over below stacked turn →
      ∃ top : Registers, Stacks.interpret env below.base p (Stacks.call env fuel) fuel' stacked =
        some (ending.over (below.onTop top)) := by
  induction runs with
  | step _ ih =>
    cases sound with
    | «at» fits placed =>
      obtain ⟨enough, rest⟩ := ih (sound_performed fits placed)
      refine ⟨enough + 1, fun fuel more fuel' more' below stacked above => ?_⟩
      obtain ⟨fuel', rfl⟩ : ∃ k, fuel' = k + 1 := ⟨fuel' - 1, by omega⟩
      cases above with
      | «at» =>
        exact rest fuel (by omega) fuel' (by omega) below _ (over_performed below fits placed)
  | faulted call =>
    cases sound with
    | calling fits placed =>
      obtain ⟨_, enough, ends⟩ := below _ _ _ _ placed call
      refine ⟨enough + 1, fun fuel more fuel' more' below stacked above => ?_⟩
      obtain ⟨fuel', rfl⟩ : ∃ k, fuel' = k + 1 := ⟨fuel' - 1, by omega⟩
      cases above with
      | calling =>
        rw [Stacks.interpret, ends fuel (by omega)]
        exact ⟨_, rfl⟩
  | called call _ ih =>
    cases sound with
    | calling fits placed =>
      obtain ⟨placed', enough, ends⟩ := below _ _ _ _ placed call
      obtain ⟨enough', rest⟩ := ih (sound_resumed fits placed' _ _ _)
      refine ⟨max enough enough' + 1, fun fuel more fuel' more' below stacked above => ?_⟩
      obtain ⟨fuel', rfl⟩ : ∃ k, fuel' = k + 1 := ⟨fuel' - 1, by omega⟩
      cases above with
      | calling =>
        rw [Stacks.interpret, ends fuel (by omega)]
        exact rest fuel (by omega) fuel' (by omega) below _
          (over_resumed below fits placed' _ _ _)
  | @done ending =>
    refine ⟨1, fun fuel more fuel' more' below stacked above => ?_⟩
    obtain ⟨fuel', rfl⟩ : ∃ k, fuel' = k + 1 := ⟨fuel' - 1, by omega⟩
    cases above with
    | ended regs => exact ⟨regs, rfl⟩

/-- A call with registers of its own for each run comes to an end on the stacks, too. -/
theorem exists_call_above {depth : Nat} (call : CallsWithin env depth h name s ending)
    (placed : Placed env s) : ∃ enough, ∀ fuel ≥ enough, ∀ below,
      Stacks.call env fuel h name ⟨below, s⟩ = some (ending.over below) := by
  induction depth generalizing h name s ending with
  | zero => exact call.elim
  | succ depth ih =>
    cases call with
    | missing program =>
      refine ⟨1, fun fuel more below => ?_⟩
      obtain ⟨fuel, rfl⟩ : ∃ k, fuel = k + 1 := ⟨fuel - 1, by omega⟩
      simp only [Stacks.call, program]
      rfl
    | answered program enter =>
      refine ⟨1, fun fuel more below => ?_⟩
      obtain ⟨fuel, rfl⟩ : ∃ k, fuel = k + 1 := ⟨fuel - 1, by omega⟩
      simp only [Stacks.call, program, enter]
      rfl
    | @ran _ _ _ _ p frame inner program enter runs =>
      obtain ⟨_, _, _, rfl⟩ := begun_of_enterRule enter
      obtain ⟨enough, ends⟩ := exists_interpret_above
        (fun _ _ _ _ placed inner => ⟨inner.placed placed, ih inner placed⟩) runs
        (.at (Registers.fits_fresh p) placed.begun)
      refine ⟨enough + 1, fun fuel more below => ?_⟩
      obtain ⟨fuel, rfl⟩ : ∃ k, fuel = k + 1 := ⟨fuel - 1, by omega⟩
      obtain ⟨top, ended⟩ := ends fuel (by omega) fuel (by omega) below _ .at
      simp only [Stacks.call, program, enter, grow_eq]
      rw [ended]
      exact leave_over frame.entry below top (some inner)

/-! ## Every call -/

/-- A run comes from a turn to another one, where `calls` says how its calls can end. -/
inductive Leads (env : Environment) (calls : CallRelation) (p : Program) : Turn → Turn → Prop where
  /-- It is there. -/
  | refl (turn : Turn) : Leads env calls p turn turn
  /-- An instruction is performed. -/
  | step {pc : Nat} {regs : Registers} {s : ParseState} {turn : Turn}
      (rest : Leads env calls p (performed env p pc regs s) turn) :
      Leads env calls p (.at pc regs s) turn
  /-- A call ends with an outcome. -/
  | called {callee : Handle} {name : Option String} {dst : Option Slot} {onFail : Label}
      {pc : Nat} {regs : Registers} {s s' : ParseState} {outcome : Option Product} {turn : Turn}
      (call : calls callee name s (.ok outcome, s'))
      (rest : Leads env calls p (resumed p pc regs dst onFail outcome s') turn) :
      Leads env calls p (.calling callee name dst onFail pc regs s) turn

/-- Where a sound turn leads is sound if calls keep the state placed. -/
theorem Leads.sound {calls : CallRelation} {turn turn' : Turn}
    (below : ∀ h name s e, Placed env s → calls h name s e → Placed env e.2)
    (leads : Leads env calls p turn turn') (sound : turn.Sound env p) : turn'.Sound env p := by
  induction leads with
  | refl => exact sound
  | step _ ih =>
    cases sound with
    | «at» fits placed => exact ih (sound_performed fits placed)
  | called call _ ih =>
    cases sound with
    | calling fits placed => exact ih (sound_resumed fits (below _ _ _ _ placed call) _ _ _)

/-- The parse states in which calls are made: at a boundary of the text at first, where calls end,
and inside of the runs of calls. -/
inductive Occurs (env : Environment) : ParseState → Prop where
  /-- Before a parse. -/
  | start (traced : Bool) {pos : Nat} (boundary : Text.isBoundary env.text pos = true) :
      Occurs env ⟨⟨pos, 0⟩, (ParseState.initial traced).book⟩
  /-- Where a call ends, with a fault even. -/
  | after {s : ParseState} {h : Handle} {name : Option String} {ending : Ending}
      (occurs : Occurs env s) (call : Calls env h name s ending) : Occurs env ending.2
  /-- Where the run of a call makes a call. -/
  | inside {s s' s'' : ParseState} {h callee : Handle} {name name' : Option String} {p : Program}
      {frame : Frame} {dst : Option Slot} {onFail : Label} {pc : Nat} {regs : Registers}
      (occurs : Occurs env s) (program : programOf env h = .ok p)
      (enter : enterRule env p name s = (.entered frame, s'))
      (leads : Leads env (Calls env) p (.at 0 (.fresh p) s')
        (.calling callee name' dst onFail pc regs s'')) : Occurs env s''

/-- A call that begins at a place of the text ends at one. -/
theorem Calls.placed (call : Calls env h name s ending) (placed : Placed env s) :
    Placed env ending.2 := by
  obtain ⟨depth, call⟩ := call
  exact call.placed placed

/-- Every state that occurs is at a place of the text. -/
theorem Occurs.placed (occurs : Occurs env s) : Placed env s := by
  induction occurs with
  | start traced boundary => exact ⟨boundary, by simp [ParseState.initial]⟩
  | after _ call ih => exact call.placed ih
  | @inside _ _ _ _ _ _ _ p _ _ _ _ _ _ _ enter leads ih =>
    obtain ⟨_, _, _, rfl⟩ := begun_of_enterRule enter
    have sound := leads.sound (fun _ _ _ _ placed call => call.placed placed)
      (.at (Registers.fits_fresh p) ih.begun)
    cases sound with
    | calling _ placed => exact placed

/-- Whenever the machine comes to the end of a match or a call, a call on the shared stacks does,
too, in the same parse state. And whenever a call comes to an end there, with whatever programs and
from whatever state in which calls are made: the stacks are as they were, and what they hold makes
no difference; no access misses them; the call ends as it does with registers of its own for each
run; guard and walks are as before; the position is on a boundary of the text, which was examined at
least as far, and if the call failed it is where it was. -/
theorem call_isolated {env : Environment} {s : ParseState} (occurs : Occurs env s) (h : Handle)
    (name : Option String) (below : Registers) :
    (∀ fuel outcome after, matchRule env fuel h s = some (outcome, after) →
      ∃ fuel' result, Stacks.call env fuel' h none ⟨below, s⟩ = some (result, ⟨below, after⟩)) ∧
    (∀ ending, Calls env h name s ending →
      ∃ fuel, Stacks.call env fuel h name ⟨below, s⟩ = some (ending.over below)) ∧
    ∀ fuel result after, Stacks.call env fuel h name ⟨below, s⟩ = some (result, after) →
      after.regs = below ∧
      (∀ other, Stacks.call env fuel h name ⟨other, s⟩ = some (result, ⟨other, after.state⟩)) ∧
      result ≠ .error .outside ∧
      (∃ outcome : Except EngineFault (Option Product), result = outcome.mapError .fault ∧
        Calls env h name s (outcome, after.state)) ∧
      after.state.book.guard = s.book.guard ∧ after.state.book.walk = s.book.walk ∧
      Text.isBoundary env.text after.state.cursor.pos = true ∧
      s.cursor.furthest ≤ after.state.cursor.furthest ∧
      (result = .ok none → after.state.cursor.pos = s.cursor.pos) := by
  have placed := occurs.placed
  have ends {name : Option String} (ending : Ending) (call : Calls env h name s ending) :
      ∃ fuel, Stacks.call env fuel h name ⟨below, s⟩ = some (ending.over below) := by
    obtain ⟨depth, call⟩ := call
    obtain ⟨enough, ends⟩ := exists_call_above call placed
    exact ⟨enough, ends enough (Nat.le_refl _) below⟩
  refine ⟨fun fuel outcome after found => ?_, ends, ?_⟩
  · obtain ⟨value, ending, call, same⟩ := calls_of_matchRule found
    cases same
    obtain ⟨fuel', ended⟩ := ends ending call
    exact ⟨fuel', _, ended⟩
  · intro fuel result after found
    obtain ⟨ending, same, sound⟩ := call_above env fuel h name s placed
    rw [same below] at found
    obtain ⟨⟨outcome, state⟩, rfl, ended⟩ := Option.map_eq_some_iff.mp found
    obtain ⟨call, placed'⟩ := sound _ rfl
    obtain ⟨balanced, failed⟩ := call.restores
    cases ended
    refine ⟨rfl, fun other => same other, ?_, ⟨outcome, rfl, fuel, call⟩, balanced.guard,
      balanced.walk, placed'.pos, balanced.furthest, fun none => failed ?_⟩
    · cases outcome <;> simp [Except.mapError]
    · cases outcome <;> simp_all [Except.mapError]

/-- The inner one of two rules sets a register that it does not have, above the registers of others:
the call ends with a fault, whatever is in these. -/
theorem call_isolated_stray : ∃ state : ParseState,
    Stacks.call strayEnvironment 5 ⟨0⟩ none ⟨⟨#[7], #[.null]⟩, .initial false⟩ =
      some (.error (.fault (.slotOutOfRange "stray" "int" 0 0)), ⟨⟨#[7], #[.null]⟩, state⟩) ∧
    Stacks.call strayEnvironment 5 ⟨0⟩ none ⟨⟨#[], #[]⟩, .initial false⟩ =
      some (.error (.fault (.slotOutOfRange "stray" "int" 0 0)), ⟨⟨#[], #[]⟩, state⟩) ∧
    Text.isBoundary "" state.cursor.pos = true := by
  have boundary : Text.isBoundary strayEnvironment.text 0 = true := by decide
  have found : Stacks.call strayEnvironment 5 ⟨0⟩ none ⟨⟨#[7], #[.null]⟩, .initial false⟩ =
      some (.error (.fault (.slotOutOfRange "stray" "int" 0 0)), ⟨⟨#[7], #[.null]⟩,
        ⟨⟨0, 0⟩, ⟨⟨0, 0⟩, [], ∅, ⟨2, 0, 0⟩, none⟩⟩⟩) := rfl
  obtain ⟨_, _, restores⟩ :=
    call_isolated (.start false boundary) ⟨0⟩ none ⟨#[7], #[.null]⟩
  obtain ⟨_, others, _, _, _, _, placed, _⟩ := restores 5 _ _ found
  exact ⟨_, found, others ⟨#[], #[]⟩, placed⟩

end Packrat.Machine
