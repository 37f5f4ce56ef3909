import Packrat.Proofs.Machine.Stacks
import Packrat.Proofs.Machine.Step
import Packrat.Proofs.Memoization

/-!
# What calls restore

However a call ends, and whatever the programs are, the guard and the list of walks are as before,
and the text was not examined less far; after a failure the position is as before, too. And the
position stays on the boundaries of the text, as long as the stops that are remembered do.

* `Balanced`: guard and walks are as before, and the text was examined at least as far.
* `Restores`: the end of a call that is, and that undoes a failure.
* `Placed`: position and remembered stops are on boundaries.

Main statements: `CallsWithin.restores`, `Placed.performed` and `Placed.closed`.
-/

namespace Packrat.Machine

variable {env : Environment} {p : Program} {s s' s'' : ParseState} {h : Handle}
  {name : Option String} {ending : Ending}

/-! ## Guard, walks and the furthest place -/

/-- Guard and walks are as before, and the text was examined at least as far. -/
structure Balanced (s s' : ParseState) : Prop where
  guard : s'.book.guard = s.book.guard
  walk : s'.book.walk = s.book.walk
  furthest : s.cursor.furthest ≤ s'.cursor.furthest

/-- A state is balanced with itself. -/
theorem Balanced.refl (s : ParseState) : Balanced s s := ⟨rfl, rfl, Nat.le_refl _⟩

/-- Two balanced stretches of a match are one. -/
theorem Balanced.trans (first : Balanced s s') (second : Balanced s' s'') : Balanced s s'' where
  guard := second.guard.trans first.guard
  walk := second.walk.trans first.walk
  furthest := Nat.le_trans first.furthest second.furthest

/-- An action that does not look at how far the text was examined does not examine less of it. -/
theorem Uniform.furthest_le {α : Type} {act : Exec α} (uniform : Uniform act) (regs : Registers)
    (cursor : Cursor) : match act ⟨regs, cursor⟩ with
      | .ok _ after => cursor.furthest ≤ after.cursor.furthest
      | .error _ after => cursor.furthest ≤ after.cursor.furthest := by
  obtain ⟨pos, furthest⟩ := cursor
  obtain ⟨result, reach, same⟩ := uniform regs pos
  rw [same furthest]
  cases result <;> exact Nat.le_max_left _ _

/-- An instruction leaves guard and walks as they are. -/
theorem balanced_performed (env : Environment) (p : Program) (pc : Nat) (regs : Registers)
    (s : ParseState) : Balanced s (performed env p pc regs s).state := by
  have book := @performed_book env p pc regs s
  refine ⟨by rw [book], by rw [book], ?_⟩
  obtain ⟨cursor, book⟩ := s
  unfold performed
  dsimp only
  cases p.instruction pc with
  | error fault => exact Nat.le_refl _
  | ok i =>
    dsimp only
    have further := (@execute_uniform env p i).furthest_le regs cursor
    cases ran : execute env p i ⟨regs, cursor⟩ with
    | error fault after =>
      rw [ran] at further
      exact further
    | ok control after =>
      rw [ran] at further
      cases control <;> exact further

/-- Going on behind a call leaves guard and walks as they are. -/
theorem balanced_resumed (p : Program) (pc : Nat) (regs : Registers) (dst : Option Slot)
    (onFail : Label) (outcome : Option Product) (s : ParseState) :
    Balanced s (resumed p pc regs dst onFail outcome s).state := by
  have book := resumed_book p pc regs dst onFail outcome s
  refine ⟨by rw [book], by rw [book], ?_⟩
  obtain ⟨cursor, book⟩ := s
  unfold resumed
  cases outcome with
  | none =>
    dsimp only
    cases p.target onFail <;> exact Nat.le_refl _
  | some product =>
    dsimp only
    have further := (@storeProduct_uniform p dst product).furthest_le regs cursor
    cases stored : storeProduct p dst product ⟨regs, cursor⟩ with
    | error fault after =>
      rw [stored] at further
      exact further
    | ok _ after =>
      rw [stored] at further
      exact further

/-- The end of a call: guard and walks are as before, and so is the position if the call failed. -/
structure Restores (s : ParseState) (ending : Ending) : Prop where
  balanced : Balanced s ending.2
  failed : ending.1 = .ok none → ending.2.cursor.pos = s.cursor.pos

/-- A run of balanced calls is balanced. -/
theorem Runs.balanced {calls : CallRelation} {turn : Turn}
    (below : ∀ h name s e, calls h name s e → Balanced s e.2)
    (runs : Runs env calls p turn ending) : Balanced turn.state ending.2 := by
  induction runs with
  | @step pc regs state _ _ ih => exact (balanced_performed env p pc regs state).trans ih
  | faulted call => exact below _ _ _ _ call
  | @called _ _ dst onFail pc regs _ state' outcome _ call _ ih =>
    have resumes := balanced_resumed p pc regs dst onFail outcome state'
    exact (below _ _ _ _ call).trans (resumes.trans ih)
  | done => exact .refl _

/-- A run is left as its rule was entered. -/
theorem restores_closed (inner : Balanced (begun p name s) ending.2) :
    Restores s (closed (entryOf env p s) ending) := by
  obtain ⟨guard, walk, furthest⟩ := inner
  obtain ⟨released, unwalked⟩ := leave_begun guard walk
  rw [begun_cursor] at furthest
  refine ⟨⟨?_, ?_, ?_⟩, ?_⟩
  · obtain ⟨fault | outcome, after⟩ := ending
    · exact abandon_guard.trans released
    · exact leaveRule_guard.trans released
  · obtain ⟨fault | outcome, after⟩ := ending
    · exact abandon_walk.trans unwalked
    · exact leaveRule_walk.trans unwalked
  · rw [closed_cursor]
    exact furthest
  · intro failed
    rw [closed_fst] at failed
    rw [closed_cursor]
    obtain ⟨outcome, after⟩ := ending
    cases failed
    rfl

/-- However a call of a program goes, it restores what it has to. -/
theorem Course.restores {calls : CallRelation} (below : ∀ h name s e, calls h name s e →
    Balanced s e.2) (course : Course env calls p name s ending) : Restores s ending := by
  cases course with
  | cut => exact ⟨⟨rfl, rfl, Nat.le_refl _⟩, fun _ => rfl⟩
  | @hit entry =>
    cases entry with
    | success stop product => exact ⟨⟨rfl, rfl, Nat.le_refl _⟩, fun failed => by cases failed⟩
    | failure => exact ⟨⟨rfl, rfl, Nat.le_refl _⟩, fun _ => rfl⟩
  | ran _ _ runs => exact restores_closed (runs.balanced below)

/-- Every call restores what it has to. -/
theorem CallsWithin.restores {depth : Nat} (call : CallsWithin env depth h name s ending) :
    Restores s ending := by
  induction depth generalizing h name s ending with
  | zero => exact call.elim
  | succ depth ih =>
    rcases Answers.goes call with ⟨fault, _, rfl⟩ | ⟨p, _, course⟩
    · exact ⟨.refl s, fun failed => by cases failed⟩
    · exact course.restores fun _ _ _ _ inner => (ih inner).balanced

/-! ## Boundaries -/

/-- The position is on a boundary of the text, and so are the stops remembered. -/
structure Placed (env : Environment) (s : ParseState) : Prop where
  pos : Text.isBoundary env.text s.cursor.pos = true
  stops : ∀ (key : MemoKey) (stop : Nat) (product : Product),
    s.book.memo[key]? = some (.success stop product) → Text.isBoundary env.text stop = true

/-- The beginning of a text is a boundary of it, and nothing is remembered there. -/
theorem Placed.initial (env : Environment) (traced : Bool) : Placed env (.initial traced) where
  pos := Text.isBoundary_iff.mpr ⟨[], env.text.toList, rfl, rfl⟩
  stops := by simp [ParseState.initial]

/-- Nothing is remembered anew and the position is still on a boundary. -/
theorem Placed.of_book (placed : Placed env s) (book : s'.book = s.book)
    (boundary : Text.isBoundary env.text s'.cursor.pos = true) : Placed env s' :=
  ⟨boundary, book ▸ placed.stops⟩

/-- At a turn of a run of a program, its registers are as many as the program says, and position
and remembered stops are on boundaries. -/
inductive Turn.Sound (env : Environment) (p : Program) : Turn → Prop where
  /-- At an instruction. -/
  | at {pc : Nat} {regs : Registers} {s : ParseState} (fits : regs.Fits p)
      (placed : Placed env s) : Sound env p (.at pc regs s)
  /-- At a call. -/
  | calling {callee : Handle} {name : Option String} {dst : Option Slot} {onFail : Label}
      {pc : Nat} {regs : Registers} {s : ParseState} (fits : regs.Fits p)
      (placed : Placed env s) : Sound env p (.calling callee name dst onFail pc regs s)
  /-- At the end. -/
  | ended {ending : Ending} (placed : Placed env ending.2) : Sound env p (.ended ending)

/-- An instruction leaves a run at a place of the text. -/
theorem sound_performed {pc : Nat} {regs : Registers} (fits : regs.Fits p)
    (placed : Placed env s) : (performed env p pc regs s).Sound env p := by
  obtain ⟨cursor, book⟩ := s
  have stays {cursor' : Cursor} (boundary : Text.isBoundary env.text cursor'.pos = true) :
      Placed env ⟨cursor', book⟩ := placed.of_book rfl boundary
  unfold performed
  dsimp only
  cases p.instruction pc with
  | error fault => exact .ended placed
  | ok i =>
    dsimp only
    have framed := @framed_execute env p ⟨#[], #[]⟩ i regs cursor fits placed.pos
    cases ran : execute env p i ⟨regs, cursor⟩ with
    | error fault after =>
      rw [ran] at framed
      exact .ended (stays framed.of_error.2.2)
    | ok control after =>
      rw [ran] at framed
      obtain ⟨_, fits', boundary⟩ := framed.of_ok
      cases control with
      | next => exact .at fits' (stays boundary)
      | goto pc => exact .at fits' (stays boundary)
      | call => exact .calling fits' (stays boundary)
      | ret outcome => exact .ended (stays boundary)

/-- Going on behind a call leaves a run at a place of the text. -/
theorem sound_resumed {pc : Nat} {regs : Registers} (fits : regs.Fits p) (placed : Placed env s)
    (dst : Option Slot) (onFail : Label) (outcome : Option Product) :
    (resumed p pc regs dst onFail outcome s).Sound env p := by
  obtain ⟨cursor, book⟩ := s
  have stays {cursor' : Cursor} (boundary : Text.isBoundary env.text cursor'.pos = true) :
      Placed env ⟨cursor', book⟩ := placed.of_book rfl boundary
  unfold resumed
  cases outcome with
  | none =>
    dsimp only
    cases p.target onFail with
    | error fault => exact .ended placed
    | ok pc => exact .at fits placed
  | some product =>
    dsimp only
    have framed := @framed_storeProduct env p ⟨#[], #[]⟩ dst product regs cursor fits placed.pos
    cases stored : storeProduct p dst product ⟨regs, cursor⟩ with
    | error fault after =>
      rw [stored] at framed
      exact .ended (stays framed.of_error.2.2)
    | ok _ after =>
      rw [stored] at framed
      obtain ⟨_, fits', boundary⟩ := framed.of_ok
      exact .at fits' (stays boundary)

/-- A run whose calls end at places of the text ends at one. -/
theorem Runs.placed {calls : CallRelation} {turn : Turn}
    (below : ∀ h name s e, Placed env s → calls h name s e → Placed env e.2)
    (sound : turn.Sound env p) (runs : Runs env calls p turn ending) : Placed env ending.2 := by
  induction runs with
  | step _ ih =>
    cases sound with
    | «at» fits placed => exact ih (sound_performed fits placed)
  | faulted call =>
    cases sound with
    | calling fits placed => exact below _ _ _ _ placed call
  | called call _ ih =>
    cases sound with
    | calling fits placed =>
      exact ih (sound_resumed fits (below _ _ _ _ placed call) _ _ _)
  | done =>
    cases sound with
    | ended placed => exact placed

/-- A run begins where the call was made. -/
theorem Placed.begun (placed : Placed env s) : Placed env (begun p name s) := by
  constructor
  · rw [begun_cursor]
    exact placed.pos
  · rw [begun_memo]
    exact placed.stops

/-- The stop of a call is remembered, so it is on a boundary, too. -/
theorem Placed.closed (placed : Placed env s) (inner : Placed env ending.2) :
    Placed env (closed (entryOf env p s) ending).2 := by
  have boundary : Text.isBoundary env.text
      (Machine.closed (entryOf env p s) ending).2.cursor.pos = true := by
    rw [closed_cursor]
    obtain ⟨fault | outcome, after⟩ := ending
    · exact inner.pos
    · cases outcome with
      | none => exact placed.pos
      | some product => exact inner.pos
  refine ⟨boundary, fun key stop product there => ?_⟩
  rcases remembered_closed there with there | ⟨_, _, here⟩
  · exact inner.stops key stop product there
  · rw [here] at boundary
    exact boundary

/-- However a call of a program goes, the position stays on the boundaries. -/
theorem Course.placed {calls : CallRelation}
    (below : ∀ h name s e, Placed env s → calls h name s e → Placed env e.2)
    (placed : Placed env s) (course : Course env calls p name s ending) :
    Placed env ending.2 := by
  cases course with
  | cut => exact ⟨placed.pos, placed.stops⟩
  | @hit entry _ found =>
    cases entry with
    | success stop product =>
      obtain ⟨key, _, there⟩ := Option.bind_eq_some_iff.mp found
      exact ⟨placed.stops key stop product there, placed.stops⟩
    | failure => exact ⟨placed.pos, placed.stops⟩
  | ran _ _ runs =>
    exact placed.closed (runs.placed below (.at (Registers.fits_fresh p) placed.begun))

/-- Every call keeps the position on the boundaries. -/
theorem CallsWithin.placed {depth : Nat} (call : CallsWithin env depth h name s ending)
    (placed : Placed env s) : Placed env ending.2 := by
  induction depth generalizing h name s ending with
  | zero => exact call.elim
  | succ depth ih =>
    rcases Answers.goes call with ⟨fault, _, rfl⟩ | ⟨p, _, course⟩
    · exact placed
    · exact course.placed (fun _ _ _ _ placed inner => ih inner placed) placed

end Packrat.Machine
