import Packrat.Machine.Execute

/-!
# Running programs

A machine runs one program at a time; the runs that wait for it are kept on a list, innermost
first, each with its own registers. A call of a rule goes through these stages in order:

1. A guarded rule that is active at the current position already fails at once.
2. An outcome that is remembered for the position is used at once.
3. The trace records that the rule is entered, and its program runs on registers of its own.
4. When it ends, the guard is as before; after a failure the position is, too.
5. The trace records that the rule is left, and the outcome is remembered.

A fault ends all runs; each is left as if it had failed, but the position stays and nothing is
remembered.

* `Config`: a running program, the runs that wait for it, and the parse state.
* `enterRule`: the first stages of a call. `leaveRule`: the last ones.
* `step`: one instruction.
* `run`: steps until the outermost program ends, as long as the fuel lasts.
* `matchRule`: match a rule at the current position.
-/

namespace Packrat.Machine

/-! ## Configurations -/

/-- What is known about a run from its start on. -/
structure Entry where
  /-- The program. -/
  program : Program
  /-- The position where the rule was entered. -/
  start : Nat
  /-- The guard to restore. -/
  savedGuard : Guard
  /-- What the outcome is to be remembered by, if it is. -/
  key : Option MemoKey

/-- A run of a program. -/
structure Frame where
  /-- Its start. -/
  entry : Entry
  /-- The next instruction. -/
  pc : Nat
  /-- Its registers. -/
  regs : Registers

/-- A run that waits for a call to end. -/
structure Waiting where
  /-- The run; its next instruction is the one after the call. -/
  frame : Frame
  /-- Where the product of the call goes. -/
  dst : Option Slot
  /-- Where to go on if the call fails. -/
  onFail : Label

/-- A running program, the runs that wait for it innermost first, and the parse state. -/
structure Config where
  /-- The parse state. -/
  state : ParseState
  /-- The running program. -/
  frame : Frame
  /-- The runs that wait. -/
  callers : List Waiting

/-! ## The guard -/

/-- Whether a rule is active already at a position, so that it must not be entered. -/
def isReentry (check : RecursionCheck) (rule : RuleId) (pos : Nat) (book : Book) : Bool :=
  match check with
  | .none => false
  | .bit index => book.guard.isActive index pos
  | .walk =>
    (book.walk.takeWhile (fun active => active.2 == pos)).any (fun active => active.1 == rule)

/-- Note that a rule is active at a position. -/
def guardEnter (check : RecursionCheck) (rule : RuleId) (pos : Nat) (book : Book) : Book :=
  match check with
  | .none => book
  | .bit index => { book with guard := book.guard.enter index pos }
  | .walk => { book with walk := (rule, pos) :: book.walk }

/-- Note that a rule is active no more; the guard is as it was when the rule was entered. -/
def guardLeave (check : RecursionCheck) (saved : Guard) (book : Book) : Book :=
  match check with
  | .walk => { book with guard := saved, walk := book.walk.tail }
  | _ => { book with guard := saved }

/-! ## Memoization -/

/-- What the outcome of a program entered at a position is remembered by, if it is. -/
def memoKey (mode : MemoMode) (p : Program) (pos : Nat) (guard : Guard) : Option MemoKey :=
  if !p.concrete then none
  else
    match mode with
    | .off => none
    | .aggressive => some ⟨p.rule, pos, 0⟩
    | .precise => some ⟨p.rule, pos, if guard.position = pos then guard.mask else 0⟩

/-- The outcome remembered by a key. -/
def remembered (key : Option MemoKey) (memo : MemoTable) : Option MemoEntry :=
  key.bind fun k => memo[k]?

/-- Remember an outcome. -/
def remember (key : Option MemoKey) (outcome : Option Product) (stop : Nat) (memo : MemoTable) :
    MemoTable :=
  match key with
  | none => memo
  | some k =>
    memo.insert k (match outcome with
      | some product => .success stop product
      | none => .failure)

/-! ## The trace -/

/-- Record an event about a program, if the program is traced and a trace is kept. -/
def record (p : Program) (event : Event) (trace : Option (Array Event)) : Option (Array Event) :=
  if p.traced then trace.map (fun events => events.push event) else trace

/-- The event of leaving a program. -/
def popEvent (p : Program) (outcome : Option Product) (start stop : Nat) : Event :=
  .pop p.rule outcome.isSome (outcome.bind fun product => product.toValue? p.output) start stop

/-! ## Calls -/

/-- What a call comes to before its program runs. -/
inductive Admission where
  /-- It is answered at once. -/
  | answered (outcome : Option Product)
  /-- The program runs. -/
  | entered (frame : Frame)

/-- The parse state with one more call counted. -/
def countCall (state : ParseState) : ParseState :=
  match state with
  | ⟨cursor, ⟨guard, walk, memo, ⟨calls, memoHits, cuts⟩, trace⟩⟩ =>
    ⟨cursor, ⟨guard, walk, memo, ⟨calls + 1, memoHits, cuts⟩, trace⟩⟩

/-- The parse state with one more call answered from the memo table. -/
def countHit (state : ParseState) : ParseState :=
  match state with
  | ⟨cursor, ⟨guard, walk, memo, ⟨calls, memoHits, cuts⟩, trace⟩⟩ =>
    ⟨cursor, ⟨guard, walk, memo, ⟨calls, memoHits + 1, cuts⟩, trace⟩⟩

/-- The parse state with one more call refused by the guard. -/
def countCut (state : ParseState) : ParseState :=
  match state with
  | ⟨cursor, ⟨guard, walk, memo, ⟨calls, memoHits, cuts⟩, trace⟩⟩ =>
    ⟨cursor, ⟨guard, walk, memo, ⟨calls, memoHits, cuts + 1⟩, trace⟩⟩

/-- The parse state at another position. -/
def moveTo (pos : Nat) (state : ParseState) : ParseState :=
  match state with
  | ⟨⟨_, furthest⟩, book⟩ => ⟨⟨pos, furthest⟩, book⟩

/-- The parse state with one more event recorded about a program. -/
def recordEvent (p : Program) (event : Event) (state : ParseState) : ParseState :=
  match state with
  | ⟨cursor, ⟨guard, walk, memo, stats, trace⟩⟩ =>
    ⟨cursor, ⟨guard, walk, memo, stats, record p event trace⟩⟩

/-- The parse state with an outcome remembered. -/
def rememberOutcome (key : Option MemoKey) (outcome : Option Product) (state : ParseState) :
    ParseState :=
  match state with
  | ⟨⟨pos, furthest⟩, ⟨guard, walk, memo, stats, trace⟩⟩ =>
    ⟨⟨pos, furthest⟩, ⟨guard, walk, remember key outcome pos memo, stats, trace⟩⟩

/-- The first stages of a call of a program. -/
def enterRule (env : Environment) (p : Program) (name : Option String) (state : ParseState) :
    Admission × ParseState :=
  let start := state.cursor.pos
  let state := countCall state
  if isReentry p.recursion p.rule start state.book then (.answered none, countCut state)
  else
    let key := memoKey env.memoMode p start state.book.guard
    match remembered key state.book.memo with
    | some (.success stop product) => (.answered (some product), moveTo stop (countHit state))
    | some .failure => (.answered none, countHit state)
    | none =>
      let saved := state.book.guard
      match recordEvent p (.push p.rule name) state with
      | ⟨cursor, book⟩ =>
        (.entered ⟨⟨p, start, saved, key⟩, 0, .fresh p⟩,
          ⟨cursor, guardEnter p.recursion p.rule start book⟩)

/-- The program of a matcher. -/
def programOf (env : Environment) (h : Handle) : Except EngineFault Program :=
  match env.arena.get? h with
  | some m => m.program
  | none => .error (.unresolvedSubroutine ⟨h.index⟩)

/-- The guard is as it was before a run. -/
def releaseGuard (e : Entry) (state : ParseState) : ParseState :=
  match state with
  | ⟨cursor, book⟩ => ⟨cursor, guardLeave e.program.recursion e.savedGuard book⟩

/-- The last stages of a call whose program has ended. -/
def leaveRule (e : Entry) (outcome : Option Product) (state : ParseState) : ParseState :=
  let state := releaseGuard e state
  let state := if outcome.isNone then moveTo e.start state else state
  let stop := state.cursor.pos
  rememberOutcome e.key outcome
    (recordEvent e.program (popEvent e.program outcome e.start stop) state)

/-- Leave a run because of a fault: its guard is released and the trace records a failure. -/
def abandon (e : Entry) (state : ParseState) : ParseState :=
  recordEvent e.program (popEvent e.program none e.start e.start) (releaseGuard e state)

/-- Leave all runs because of a fault, innermost first. -/
def abandonAll (e : Entry) (callers : List Waiting) (state : ParseState) : ParseState :=
  callers.foldl (fun state w => abandon w.frame.entry state) (abandon e state)

/-! ## Steps -/

/-- What a step leads to. -/
inductive Step where
  /-- Another configuration. -/
  | running (c : Config)
  /-- The end of the outermost run. -/
  | finished (outcome : Except EngineFault (Option Product)) (state : ParseState)

/-- All runs end with a fault. -/
def faulted (fault : EngineFault) (e : Entry) (callers : List Waiting) (state : ParseState) :
    Step :=
  .finished (.error fault) (abandonAll e callers state)

/-- A run that waited goes on with the outcome of its call: the product is stored, or the run goes
to the label for failures. -/
def resume (w : Waiting) (callers : List Waiting) (outcome : Option Product)
    (state : ParseState) : Step :=
  match w, state with
  | ⟨⟨entry, pc, regs⟩, dst, onFail⟩, ⟨cursor, book⟩ =>
    match outcome with
    | none =>
      match entry.program.target onFail with
      | .ok pc => .running ⟨⟨cursor, book⟩, ⟨entry, pc, regs⟩, callers⟩
      | .error fault => faulted fault entry callers ⟨cursor, book⟩
    | some product =>
      match storeProduct entry.program dst product ⟨regs, cursor⟩ with
      | .ok () ⟨regs, cursor⟩ => .running ⟨⟨cursor, book⟩, ⟨entry, pc, regs⟩, callers⟩
      | .error fault ⟨_, cursor⟩ => faulted fault entry callers ⟨cursor, book⟩

/-- A run has ended: its call is completed, and the run that waited for it goes on. -/
def complete (e : Entry) (callers : List Waiting) (outcome : Option Product)
    (state : ParseState) : Step :=
  let state := leaveRule e outcome state
  match callers with
  | [] => .finished (.ok outcome) state
  | w :: callers => resume w callers outcome state

/-- A run calls another rule. -/
def call (env : Environment) (w : Waiting) (callers : List Waiting) (callee : Handle)
    (name : Option String) (state : ParseState) : Step :=
  match programOf env callee with
  | .error fault => faulted fault w.frame.entry callers state
  | .ok p =>
    match enterRule env p name state with
    | (.answered outcome, state) => resume w callers outcome state
    | (.entered frame, state) => .running ⟨state, frame, w :: callers⟩

/-- Perform the next instruction of the running program. -/
def step (env : Environment) (c : Config) : Step :=
  match c with
  | ⟨⟨cursor, book⟩, ⟨entry, pc, regs⟩, callers⟩ =>
    match entry.program.instruction pc with
    | .error fault => faulted fault entry callers ⟨cursor, book⟩
    | .ok i =>
      match execute env entry.program i ⟨regs, cursor⟩ with
      | .error fault ⟨_, cursor⟩ => faulted fault entry callers ⟨cursor, book⟩
      | .ok control ⟨regs, cursor⟩ =>
        match control with
        | .next => .running ⟨⟨cursor, book⟩, ⟨entry, pc + 1, regs⟩, callers⟩
        | .goto pc => .running ⟨⟨cursor, book⟩, ⟨entry, pc, regs⟩, callers⟩
        | .ret outcome => complete entry callers outcome ⟨cursor, book⟩
        | .call callee name dst onFail =>
          call env ⟨⟨entry, pc + 1, regs⟩, dst, onFail⟩ callers callee name ⟨cursor, book⟩

/-- Steps until the outermost run ends. Nothing if the fuel does not last. -/
def run (env : Environment) : (fuel : Nat) → Config →
    Option (Except EngineFault (Option Product) × ParseState)
  | 0, _ => none
  | fuel + 1, c =>
    match step env c with
    | .running c => run env fuel c
    | .finished outcome state => some (outcome, state)

/-! ## Matching -/

/-- The value of a match: the product as a value, `null` where there is none. -/
def matchValue (p : Program) (outcome : Option Product) : Option Value :=
  outcome.map fun product => (product.toValue? p.output).getD .null

/-- Match a rule at the current position. The outcome is a value, a failure with the position
unchanged, or a fault. Nothing if the fuel does not last. -/
def matchRule (env : Environment) (fuel : Nat) (h : Handle) (state : ParseState) :
    Option (Except EngineFault (Option Value) × ParseState) :=
  match programOf env h with
  | .error fault => some (.error fault, state)
  | .ok p =>
    match enterRule env p none state with
    | (.answered outcome, state) => some (.ok (matchValue p outcome), state)
    | (.entered frame, state) =>
      (run env fuel ⟨state, frame, []⟩).map fun (outcome, state) =>
        (outcome.map (matchValue p), state)

/-- Fuel beyond the steps that any run takes in practice. -/
def plenty : Nat := 0x4000000000000000

end Packrat.Machine
