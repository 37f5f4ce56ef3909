import Packrat.Proofs.Machine.Furthest

/-!
# Runs side by side

Two runs of programs with the same instructions, in parse states that differ in what calls keep and
in how far the text was examined. They take the same turns as long as their calls, which may be of
different matchers, end alike.

* `Twins`: programs that differ in the matchers of their callees, and in their guard.
* `Steady`: a relation of parse states that instructions keep.
* `EndAlike`, `Turn.Alike`: the same but for parse states and matchers called, which are related.

Main statement: `Runs.twins`.
-/

namespace Packrat.Machine

/-! ## Instructions -/

/-- The same control, where calls are of related matchers. -/
inductive Control.Alike (H : Handle → Handle → Prop) : Control → Control → Prop where
  /-- No call. -/
  | same (control : Control) (inside : ∀ callee name dst onFail,
      control ≠ .call callee name dst onFail) : Alike H control control
  /-- Calls of related matchers. -/
  | call {callee callee' : Handle} (related : H callee callee') (name : Option String)
      (dst : Option Slot) (onFail : Label) :
      Alike H (.call callee name dst onFail) (.call callee' name dst onFail)

/-- The same result of an instruction, where calls are of related matchers. -/
inductive ResultAlike (H : Handle → Handle → Prop) :
    EStateM.Result EngineFault Local Control → EStateM.Result EngineFault Local Control → Prop where
  /-- The instruction is performed. -/
  | ok {control control' : Control} (alike : control.Alike H control') (after : Local) :
    ResultAlike H (.ok control after) (.ok control' after)
  /-- It ends with a fault. -/
  | error (fault : EngineFault) (after : Local) :
    ResultAlike H (.error fault after) (.error fault after)

/-- Programs that do the same, but for the matchers that they call. -/
structure Twins (H : Handle → Handle → Prop) (env env' : Environment) (p p' : Program) : Prop where
  fresh : Registers.fresh p' = Registers.fresh p
  instruction : ∀ pc, p'.instruction pc = p.instruction pc
  target : ∀ label, p'.target label = p.target label
  store : ∀ dst product, storeProduct p' dst product = storeProduct p dst product
  execute : ∀ i before, ResultAlike H (execute env p i before) (execute env' p' i before)

/-- Every control is like itself. -/
theorem Control.Alike.refl (control : Control) : control.Alike Eq control := by
  cases control with
  | call callee name dst onFail => exact .call rfl name dst onFail
  | _ => exact .same _ nofun

/-- A program is its own twin in an environment where instructions do the same. -/
theorem Twins.refl {env env' : Environment} {p : Program}
    (same : ∀ i : Instruction, Machine.execute env' p i = Machine.execute env p i) :
    Twins Eq env env' p p where
  fresh := rfl
  instruction _ := rfl
  target _ := rfl
  store _ _ := rfl
  execute i before := by
    rw [same]
    cases Machine.execute env p i before with
    | ok control after => exact .ok (.refl control) after
    | error fault after => exact .error fault after

/-- What is remembered has no say in what instructions do. -/
theorem execute_memoMode (env : Environment) (mode : MemoMode) (p : Program) (i : Instruction) :
    execute { env with memoMode := mode } p i = execute env p i := by
  cases i with
  | invoke native args dst onFail => cases native <;> rfl
  | _ => rfl

/-! ## Turns -/

/-- A relation of parse states at the same place that instructions keep. -/
structure Steady (R : ParseState → ParseState → Prop) : Prop where
  pos : ∀ s s', R s s' → s.cursor.pos = s'.cursor.pos
  moved : ∀ (cursor cursor' : Cursor) (book book' : Book) (pos reach : Nat),
    R ⟨cursor, book⟩ ⟨cursor', book'⟩ →
      R ⟨⟨pos, max cursor.furthest reach⟩, book⟩ ⟨⟨pos, max cursor'.furthest reach⟩, book'⟩

/-- Endings with the same outcome in related parse states. -/
def EndAlike (R : ParseState → ParseState → Prop) (e e' : Ending) : Prop :=
  e.1 = e'.1 ∧ R e.2 e'.2

/-- The same turn in related parse states. -/
inductive Turn.Alike (H : Handle → Handle → Prop) (R : ParseState → ParseState → Prop) :
    Turn → Turn → Prop where
  /-- At the same instruction. -/
  | at {pc : Nat} {regs : Registers} {s s' : ParseState} (related : R s s') :
    Alike H R (.at pc regs s) (.at pc regs s')
  /-- At calls of related matchers. -/
  | calling {callee callee' : Handle} {name : Option String} {dst : Option Slot} {onFail : Label}
      {pc : Nat} {regs : Registers} {s s' : ParseState} (handles : H callee callee')
      (related : R s s') : Alike H R (.calling callee name dst onFail pc regs s)
        (.calling callee' name dst onFail pc regs s')
  /-- At the end. -/
  | ended {e e' : Ending} (alike : EndAlike R e e') : Alike H R (.ended e) (.ended e')

variable {H : Handle → Handle → Prop} {R : ParseState → ParseState → Prop}
  {env env' : Environment} {p p' : Program} {s s' : ParseState}

/-- The same control leads to the same turn. -/
theorem Control.Alike.turn {control control' : Control} (alike : control.Alike H control')
    (related : R s s') (pc : Nat) (regs : Registers) :
    Turn.Alike H R (control.turn pc regs s) (control'.turn pc regs s') := by
  cases alike with
  | call handles name dst onFail => exact .calling handles related
  | same _ inside =>
    cases control with
    | next => exact .at related
    | goto pc => exact .at related
    | call callee name dst onFail => exact absurd rfl (inside callee name dst onFail)
    | ret outcome => exact .ended ⟨rfl, related⟩

/-- The same instruction leads to the same turn. -/
theorem performed_alike (steady : Steady R) (twins : Twins H env env' p p') (related : R s s')
    (pc : Nat) (regs : Registers) :
    Turn.Alike H R (performed env p pc regs s) (performed env' p' pc regs s') := by
  obtain ⟨⟨pos, furthest⟩, book⟩ := s
  obtain ⟨⟨pos', furthest'⟩, book'⟩ := s'
  obtain rfl : pos = pos' := steady.pos _ _ related
  unfold performed
  dsimp only
  rw [twins.instruction]
  cases p.instruction pc with
  | error fault => exact .ended ⟨rfl, related⟩
  | ok i =>
    obtain ⟨result, reach, uniform⟩ := @execute_uniform env p i regs pos
    have twin := twins.execute i ⟨regs, ⟨pos, furthest'⟩⟩
    dsimp only
    rw [uniform furthest'] at twin
    rw [uniform furthest]
    generalize execute env' p' i ⟨regs, ⟨pos, furthest'⟩⟩ = result' at twin
    rcases result with ⟨control, regs', ⟨stop, _⟩⟩ | ⟨fault, regs', ⟨stop, _⟩⟩
    · cases twin with
      | ok alike => exact alike.turn (steady.moved _ _ _ _ stop reach related) pc regs'
    · cases twin
      exact .ended ⟨rfl, steady.moved _ _ _ _ stop reach related⟩

/-- The same outcome of a call leads to the same turn. -/
theorem resumed_alike (steady : Steady R) (twins : Twins H env env' p p') (related : R s s')
    (pc : Nat) (regs : Registers) (dst : Option Slot) (onFail : Label) (outcome : Option Product) :
    Turn.Alike H R (resumed p pc regs dst onFail outcome s)
      (resumed p' pc regs dst onFail outcome s') := by
  obtain ⟨⟨pos, furthest⟩, book⟩ := s
  obtain ⟨⟨pos', furthest'⟩, book'⟩ := s'
  obtain rfl : pos = pos' := steady.pos _ _ related
  unfold resumed
  dsimp only
  cases outcome with
  | none =>
    dsimp only
    rw [twins.target]
    cases p.target onFail with
    | ok pc => exact .at related
    | error fault => exact .ended ⟨rfl, related⟩
  | some product =>
    obtain ⟨result, reach, uniform⟩ := @storeProduct_uniform p dst product regs pos
    dsimp only
    rw [twins.store, uniform furthest, uniform furthest']
    rcases result with ⟨_, regs', ⟨stop, _⟩⟩ | ⟨fault, regs', ⟨stop, _⟩⟩
    · exact .at (steady.moved _ _ _ _ stop reach related)
    · exact .ended ⟨rfl, steady.moved _ _ _ _ stop reach related⟩

/-! ## Runs -/

/-- Runs of twins end alike if their calls do, and the calls of the second run are what can be said
of calls beside those of the first one. -/
theorem Runs.twins (known : CallRelation) (steady : Steady R) (twins : Twins H env env' p p')
    {calls calls' : CallRelation}
    (agree : ∀ (h h' : Handle) (name : Option String) (s s' : ParseState) (e e' : Ending),
      H h h' → R s s' → calls h name s e → calls' h' name s' e' →
        EndAlike R e e' ∧ known h' name s' e')
    {turn turn' : Turn} {e e' : Ending} (runs : Runs env calls p turn e)
    (runs' : Runs env' calls' p' turn' e') (alike : turn.Alike H R turn') :
    EndAlike R e e' ∧ Runs env' known p' turn' e' := by
  induction runs generalizing turn' with
  | step _ ih =>
    cases alike with
    | «at» related =>
      cases runs' with
      | step rest' =>
        obtain ⟨same, rest⟩ := ih rest' (performed_alike steady twins related _ _)
        exact ⟨same, .step rest⟩
  | faulted call =>
    cases alike with
    | calling handles related =>
      cases runs' with
      | faulted call' =>
        obtain ⟨same, call⟩ := agree _ _ _ _ _ _ _ handles related call call'
        exact ⟨same, .faulted call⟩
      | called call' => cases (agree _ _ _ _ _ _ _ handles related call call').1.1
  | called call _ ih =>
    cases alike with
    | calling handles related =>
      cases runs' with
      | faulted call' => cases (agree _ _ _ _ _ _ _ handles related call call').1.1
      | called call' rest' =>
        obtain ⟨⟨outcome, after⟩, call⟩ := agree _ _ _ _ _ _ _ handles related call call'
        cases outcome
        obtain ⟨same, rest⟩ := ih rest' (resumed_alike steady twins after _ _ _ _ _)
        exact ⟨same, .called call rest⟩
  | done =>
    cases alike with
    | ended alike =>
      cases runs' with
      | done => exact ⟨alike, .done⟩

end Packrat.Machine
