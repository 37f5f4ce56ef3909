import Packrat.Proofs.Machine.InPlace
import Packrat.Proofs.Restoration

/-!
# Inside the text

Position and remembered stops do not go past the end of the text, whatever the programs are and
wherever in the text a call begins, be it inside a character.

* `KeepsInside`: an action does not leave the text.
* `Inside`: position and remembered stops are not past the end of the text.
* `Turn.Inside`: where a run is that stays in the text.

Main statements: `Runs.inside` and `CallsWithin.inside`.
-/

namespace Packrat.Machine

variable {env : Environment} {p : Program} {s : ParseState} {h : Handle} {name : Option String}
  {ending : Ending}

/-! ## Actions -/

/-- An action does not leave the text. -/
def KeepsInside {α : Type} (env : Environment) (act : Exec α) : Prop :=
  Ensures (fun s => s.cursor.pos ≤ env.text.utf8ByteSize) act
    (fun _ s => s.cursor.pos ≤ env.text.utf8ByteSize)

section

variable {α β : Type}

/-- Returning something keeps inside the text. -/
theorem KeepsInside.pure (a : α) : KeepsInside env (pure a : Exec α) := Ensures.pure fun _ => id

/-- Two actions that keep inside the text do so together. -/
theorem KeepsInside.bind {act : Exec α} {go : α → Exec β} (first : KeepsInside env act)
    (second : ∀ a, KeepsInside env (go a)) : KeepsInside env (act >>= go) :=
  Ensures.bind first second

/-- An action that keeps apart from the text keeps inside it. -/
theorem Apart.keepsInside {act : Exec α} (apart : Apart [] act) : KeepsInside env act := by
  intro s inside a s' ran
  obtain ⟨cursor, -⟩ := apart s
  rw [ran] at cursor
  exact (congrArg Cursor.pos cursor).trans_le inside

/-- What follows a look at the position goes on from a place in the text. -/
theorem position_keepsInside {go : Nat → Exec α}
    (second : ∀ pos, pos ≤ env.text.utf8ByteSize → KeepsInside env (go pos)) :
    KeepsInside env (position >>= go) :=
  fun s inside => second s.cursor.pos inside s inside

end

/-- Looking at the next character keeps inside the text. -/
theorem peekChar_keepsInside : KeepsInside env (peekChar env) := by
  rintro ⟨regs, ⟨pos, furthest⟩⟩ inside c s' ran
  cases ran
  exact inside

/-- Going forward to a place in the text keeps inside it. -/
theorem advanceTo_keepsInside {stop : Nat} (inside : stop ≤ env.text.utf8ByteSize) :
    KeepsInside env (advanceTo stop) := by
  rintro ⟨regs, ⟨pos, furthest⟩⟩ - u s' ran
  cases ran
  exact inside

/-- Consuming text up to a place in it keeps inside it. -/
theorem consumeTo_keepsInside {stop : Nat} (inside : stop ≤ env.text.utf8ByteSize) :
    KeepsInside env (some <$> consumeTo env stop) := by
  have consumes : KeepsInside env (consumeTo env stop) :=
    .bind position_apart.keepsInside fun start => .bind (advanceTo_keepsInside inside) fun _ =>
      .pure (Value.str ((Text.slice? env.text start stop).getD ""))
  exact .bind consumes fun v => .pure (some v)

/-- Boundaries are in the text. -/
theorem seek_keepsInside (pos : Nat) : KeepsInside env (seek env p pos) := by
  rintro ⟨regs, cursor⟩ - u s' ran
  unfold seek at ran
  split at ran
  case isTrue boundary =>
    cases ran
    exact Text.le_size_of_isBoundary boundary
  case isFalse => cases ran

/-- Operations stop at the end of the text. -/
theorem perform_keepsInside (args : List Slot) (native : Native) :
    KeepsInside env (perform env p args native) := by
  cases native with
  | matchRegex index =>
    refine .bind (lookUp_apart _).keepsInside fun regex => position_keepsInside fun pos inside => ?_
    split
    case h_1 stop ended =>
      have within := Regex.within_of_matchAt ended
      exact consumeTo_keepsInside (within.le_size inside)
    case h_2 => exact .pure _
  | parseNumber kind =>
    refine position_keepsInside fun pos inside => ?_
    split
    case h_1 length v scanned =>
      rw [Text.runAt_eq_takeWhile] at scanned
      have within := Number.within_of_scanNumber scanned
      exact .bind (advanceTo_keepsInside (within.le_size inside)) fun _ => .pure _
    case h_2 => exact .pure _
  | takeChars =>
    refine .bind (readArg_apart args).keepsInside fun v => ?_
    split
    · refine position_keepsInside fun pos inside => ?_
      split
      case h_1 stop passed =>
        have within := Text.within_of_skipExactly? passed
        exact consumeTo_keepsInside (within.le_size inside)
      case h_2 => exact .pure _
    · exact (Apart.throw _).keepsInside
  | foldCase =>
    refine .bind (readArg_apart args).keepsInside fun v => ?_
    split
    · exact .pure _
    · exact (Apart.throw _).keepsInside
  | userObject => exact .pure _

/-- No instruction leaves the text. -/
theorem execute_keepsInside (i : Instruction) : KeepsInside env (execute env p i) := by
  have free (slots : List IntSlot) : ∀ r ∈ slots, r ∉ ([] : List IntSlot) :=
    fun _ _ => List.not_mem_nil
  have next {act : Exec Unit} (keeps : KeepsInside env act) : KeepsInside env (thenNext act) :=
    .bind keeps fun _ => .pure _
  cases i with
  | savePos dst =>
    exact next (.bind position_apart.keepsInside fun pos =>
      (writeInt_apart List.not_mem_nil _).keepsInside)
  | restorePos src =>
    exact next (.bind (readPosition_apart src).keepsInside fun pos => seek_keepsInside pos)
  | peekChar dst =>
    refine next (.bind peekChar_keepsInside fun c => ?_)
    split
    · exact (writeInt_apart List.not_mem_nil _).keepsInside
    · exact (writeInt_apart List.not_mem_nil _).keepsInside
  | advance chars =>
    refine next (position_keepsInside fun pos inside => advanceTo_keepsInside ?_)
    exact (Text.within_skip env.text pos chars).le_size inside
  | invoke native args dst onFail =>
    refine .bind (perform_keepsInside args native) fun v => ?_
    cases v with
    | none => exact (goTo_apart onFail).keepsInside
    | some v => exact next (storeValue_apart (free _) v).keepsInside
  | ret success =>
    cases success with
    | false => exact (execute_apart rfl (free _)).keepsInside
    | true => exact (execute_apart rfl (free _)).keepsInside
  | _ => exact (execute_apart rfl (free _)).keepsInside

/-! ## Runs -/

/-- The position is not past the end of the text, and neither are the stops remembered. -/
structure Inside (env : Environment) (s : ParseState) : Prop where
  pos : s.cursor.pos ≤ env.text.utf8ByteSize
  stops : ∀ (key : MemoKey) (stop : Nat) (product : Product),
    s.book.memo[key]? = some (.success stop product) → stop ≤ env.text.utf8ByteSize

/-- Before the first call. -/
theorem Inside.initial (traced : Bool) {pos : Nat} (le : pos ≤ env.text.utf8ByteSize) :
    Inside env ⟨⟨pos, 0⟩, (ParseState.initial traced).book⟩ where
  pos := le
  stops := by simp [ParseState.initial]

/-- A run stays in the text, and calls what its program has in its table. Where a fault ends it is
left open. -/
inductive Turn.Inside (env : Environment) (p : Program) : Turn → Prop where
  /-- At an instruction. -/
  | at {pc : Nat} {regs : Registers} {s : ParseState} (inside : Machine.Inside env s) :
      Inside env p (.at pc regs s)
  /-- At a call. -/
  | calling {callee : Handle} {name : Option String} {dst : Option Slot} {onFail : Label}
      {pc : Nat} {regs : Registers} {s : ParseState} (inside : Machine.Inside env s)
      (listed : ∃ index, p.callee index = .ok callee) :
      Inside env p (.calling callee name dst onFail pc regs s)
  /-- At the end. -/
  | ended {ending : Ending}
      (inside : ∀ outcome, ending.1 = .ok outcome → Machine.Inside env ending.2) :
      Inside env p (.ended ending)

/-- An instruction keeps inside the text. -/
theorem inside_performed (pc : Nat) (regs : Registers) (inside : Inside env s) :
    (performed env p pc regs s).Inside env p := by
  obtain ⟨cursor, book⟩ := s
  unfold performed
  dsimp only
  cases p.instruction pc with
  | error fault => exact .ended nofun
  | ok i =>
    dsimp only
    cases ran : execute env p i ⟨regs, cursor⟩ with
    | error fault after => exact .ended nofun
    | ok control after =>
      have stays : Inside env ⟨after.cursor, book⟩ :=
        ⟨execute_keepsInside i _ inside.pos _ _ ran, inside.stops⟩
      cases control with
      | next => exact .at stays
      | goto pc => exact .at stays
      | ret outcome => exact .ended fun _ _ => stays
      | call callee name dst onFail => exact .calling stays (callee_of_execute ran)

/-- Going on behind a call keeps inside the text. -/
theorem inside_resumed (pc : Nat) (regs : Registers) (dst : Option Slot) (onFail : Label)
    (outcome : Option Product) (inside : Inside env s) :
    (resumed p pc regs dst onFail outcome s).Inside env p := by
  obtain ⟨cursor, book⟩ := s
  unfold resumed
  cases outcome with
  | none =>
    dsimp only
    cases p.target onFail with
    | error fault => exact .ended nofun
    | ok pc => exact .at inside
  | some product =>
    dsimp only
    cases stored : storeProduct p dst product ⟨regs, cursor⟩ with
    | error fault after => exact .ended nofun
    | ok u after =>
      have apart : Apart [] (storeProduct p dst product) :=
        storeProduct_apart (fun _ _ => List.not_mem_nil) product
      exact .at ⟨apart.keepsInside _ inside.pos _ _ stored, inside.stops⟩

/-- A run that begins in the text stays there, and so do the runs below it: whatever its calls do
there, they may be taken to do only there and for its callees only. -/
theorem Runs.inside {calls : CallRelation} {turn : Turn}
    (below : ∀ callee, (∃ index, p.callee index = .ok callee) → ∀ name s outcome s',
      Inside env s → calls callee name s (.ok outcome, s') → Inside env s')
    (inside : turn.Inside env p) (runs : Runs env calls p turn ending) :
    Runs env (fun callee name s e => calls callee name s e ∧ Inside env s ∧
      ∃ index, p.callee index = .ok callee) p turn ending ∧
      ∀ outcome, ending.1 = .ok outcome → Inside env ending.2 := by
  induction runs with
  | step _ ih =>
    cases inside with
    | «at» inside =>
      obtain ⟨runs, stays⟩ := ih (inside_performed _ _ inside)
      exact ⟨.step runs, stays⟩
  | faulted call =>
    cases inside with
    | calling inside listed => exact ⟨.faulted ⟨call, inside, listed⟩, nofun⟩
  | called call _ ih =>
    cases inside with
    | calling inside listed =>
      have after := below _ listed _ _ _ _ inside call
      obtain ⟨runs, stays⟩ := ih (inside_resumed _ _ _ _ _ after)
      exact ⟨.called ⟨call, inside, listed⟩ runs, stays⟩
  | done =>
    cases inside with
    | ended inside => exact ⟨.done, inside⟩

/-! ## Calls -/

/-- A run begins inside the text. -/
theorem Inside.begun (inside : Inside env s) : Inside env (begun p name s) := by
  constructor
  · rw [begun_cursor]
    exact inside.pos
  · rw [begun_memo]
    exact inside.stops

/-- What is remembered of a call that ends in the text is its stop. -/
theorem Inside.closed (inside : Inside env s)
    (inner : ∀ outcome, ending.1 = .ok outcome → Inside env ending.2) {outcome : Option Product}
    (ended : (closed (entryOf env p s) ending).1 = .ok outcome) :
    Inside env (closed (entryOf env p s) ending).2 := by
  rw [closed_fst] at ended
  have after := inner outcome ended
  have stop : (Machine.closed (entryOf env p s) ending).2.cursor.pos ≤ env.text.utf8ByteSize := by
    rw [closed_cursor]
    obtain ⟨_, state⟩ := ending
    cases ended
    cases outcome with
    | none => exact inside.pos
    | some product => exact after.pos
  refine ⟨stop, fun key stop' product there => ?_⟩
  rcases remembered_closed there with there | ⟨_, _, here⟩
  · exact after.stops key stop' product there
  · rw [here] at stop
    exact stop

/-- Every call that begins in the text ends there. -/
theorem CallsWithin.inside {depth : Nat} (call : CallsWithin env depth h name s ending)
    (inside : Inside env s) : ∀ outcome, ending.1 = .ok outcome → Inside env ending.2 := by
  induction depth generalizing h name s ending with
  | zero => exact call.elim
  | succ depth ih =>
    rcases Answers.goes call with ⟨fault, _, rfl⟩ | ⟨p, _, course⟩
    · exact fun _ _ => inside
    · cases course with
      | cut => exact fun _ _ => ⟨inside.pos, inside.stops⟩
      | @hit entry _ found =>
        cases entry with
        | success stop product =>
          obtain ⟨key, _, there⟩ := Option.bind_eq_some_iff.mp found
          exact fun _ _ => ⟨inside.stops key stop product there, inside.stops⟩
        | failure => exact fun _ _ => ⟨inside.pos, inside.stops⟩
      | ran _ _ runs =>
        obtain ⟨-, stays⟩ := runs.inside (fun _ _ _ _ _ _ inside inner => ih inner inside _ rfl)
          (.at inside.begun)
        exact fun _ ended => inside.closed stays ended

end Packrat.Machine
