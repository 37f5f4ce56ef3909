import Packrat.Proofs.Machine.Examined
import Packrat.Proofs.Machine.Twins
import Packrat.Proofs.Program.Flow

/-!
# Failing where a run began

What is known at a place of an orderly program is true of every run that comes there, as long as the
calls that fail leave the position as it is. So a run of a program that is back where it began
wherever it fails ends there if it fails.

* `Known.Holds`: what is known is true.
* `Ensures`: what an action makes of the states with a property, if it does not fault.
* `Turn.InPlace`: what is known is true at a turn of a run.
* `Undoing`: calls that leave the position as it is if they fail.

Main statement: `Runs.fails_in_place`.
-/

namespace Packrat

/-- What is known of the position and of kept positions is true of a run that began at `start`. -/
structure Known.Holds (kept : List IntSlot) (start : Nat) (k : Known) (s : Machine.Local) :
    Prop where
  home : k.home = true → s.cursor.pos = start
  start : ∀ r ∈ kept, k.start r = true → s.regs.ints[r.index]? = some (start : Int)

/-- What is gathered does not count here. -/
theorem Known.Holds.of_eq {kept : List IntSlot} {start : Nat} {k k' : Known} {s : Machine.Local}
    (holds : k.Holds kept start s) (home : k'.home = k.home) (same : k'.start = k.start) :
    k'.Holds kept start s :=
  ⟨fun here => holds.home (home ▸ here), fun r member here => holds.start r member (same ▸ here)⟩

namespace Machine

variable {α β : Type} {env : Environment} {p : Program} {kept : List IntSlot} {start : Nat}
  {k : Known} {i : Instruction} {scans : Bool}

/-! ## Actions -/

/-- From states with property `P` an action leads to those that `Q` relates to what it returns. -/
def Ensures (P : Local → Prop) (act : Exec α) (Q : α → Local → Prop) : Prop :=
  ∀ s, P s → ∀ a s', act s = .ok a s' → Q a s'

namespace Ensures

variable {P : Local → Prop} {Q : α → Local → Prop} {R : β → Local → Prop}

/-- Returning something ensures what holds of it anyway. -/
theorem pure {a : α} (holds : ∀ s, P s → Q a s) : Ensures P (pure a : Exec α) Q := by
  intro s here a' s' ran
  cases ran
  exact holds s here

/-- Failing ensures anything. -/
theorem throw (fault : EngineFault) : Ensures P (throw fault : Exec α) Q := by
  intro s holds a s' ran
  cases ran

/-- Two actions ensure what the second one does where the first one leads. -/
theorem bind {act : Exec α} {go : α → Exec β} (first : Ensures P act Q)
    (second : ∀ a, Ensures (Q a) (go a) R) : Ensures P (act >>= go) R := by
  intro s holds b s' ran
  cases done : act s with
  | error fault after =>
    rw [bind_error done] at ran
    cases ran
  | ok a after =>
    rw [bind_ok done] at ran
    exact second a after (first s holds a after done) b s' ran

/-- What an action ensures it ensures in every weaker form. -/
theorem mono {act : Exec α} {Q' : α → Local → Prop} (ensures : Ensures P act Q)
    (weaker : ∀ a s, Q a s → Q' a s) : Ensures P act Q' :=
  fun s holds a s' ran => weaker a s' (ensures s holds a s' ran)

/-- A look-up that succeeds has found something. -/
theorem lookUp {found : Except EngineFault α} :
    Ensures P (lookUp found) (fun a s => found = .ok a ∧ P s) := by
  cases found with
  | ok a => exact .pure fun s holds => ⟨rfl, holds⟩
  | error fault => exact .throw fault

end Ensures

/-- An action apart from the text leaves what is known true. -/
theorem Apart.ensures {act : Exec α} (apart : Apart kept act) :
    Ensures (k.Holds kept start) act (fun _ => k.Holds kept start) := by
  intro s holds a s' ran
  obtain ⟨cursor, ints⟩ := apart s
  rw [ran] at cursor ints
  refine ⟨fun here => ?_, fun r member here => ?_⟩
  · exact (congrArg Cursor.pos cursor).trans (holds.home here)
  · exact (ints r member).trans (holds.start r member here)

/-- Looking at the next character leaves what is known as it is. -/
theorem peekChar_ensures :
    Ensures (k.Holds kept start) (peekChar env) (fun _ => k.Holds kept start) := by
  rintro ⟨regs, ⟨pos, furthest⟩⟩ holds c s' ran
  cases ran
  exact ⟨holds.home, holds.start⟩

/-- Behind a move it is not known where the run is. -/
theorem advanceTo_ensures (stop : Nat) :
    Ensures (k.Holds kept start) (advanceTo stop) (fun _ => k.moved.Holds kept start) := by
  rintro ⟨regs, ⟨pos, furthest⟩⟩ holds u s' ran
  cases ran
  exact ⟨nofun, holds.start⟩

/-- Consuming text moves the run away from where it was. -/
theorem consumeTo_ensures (stop : Nat) :
    Ensures (k.Holds kept start) (consumeTo env stop) (fun _ => k.moved.Holds kept start) :=
  .bind position_apart.ensures fun _ => .bind (advanceTo_ensures stop) fun _ => .pure fun _ => id

/-- A kept position is the start if it is known to be. -/
theorem readPosition_ensures {src : IntSlot} (member : src ∈ kept) :
    Ensures (k.Holds kept start) (readPosition p src)
      (fun pos s => (k.start src = true → pos = start) ∧ k.Holds kept start s) := by
  intro s holds pos s' ran
  cases there : s.regs.ints[src.index]? with
  | none =>
    have read : readInt p src s =
        .error (.slotOutOfRange p.name "int" src.index p.intSlots) s := by
      rw [readInt, there]
    rw [readPosition, bind_error read] at ran
    cases ran
  | some n =>
    have read : readInt p src s = .ok n s := by rw [readInt, there]
    rw [readPosition, bind_ok read] at ran
    split at ran
    · cases ran
    · cases ran
      refine ⟨fun here => ?_, holds⟩
      cases there.symm.trans (holds.start src member here)
      rfl

/-- The run goes back to a position, which is the start if a condition is met. -/
theorem seek_ensures {pos : Nat} {known : Bool} :
    Ensures (fun s => (known = true → pos = start) ∧ k.Holds kept start s) (seek env p pos)
      (fun _ => Known.Holds kept start { k with home := known }) := by
  rintro ⟨regs, cursor⟩ ⟨here, holds⟩ u s' ran
  unfold seek at ran
  split at ran
  · cases ran
    exact ⟨here, holds.start⟩
  · cases ran

/-- The position is kept exactly, since no text is longer than a word can tell. -/
theorem keepPosition_ensures (short : start < 2 ^ 63) (dst : IntSlot) :
    Ensures (k.Holds kept start) (position >>= fun pos => writeInt p dst (Word.clamp pos))
      (fun _ => (k.kept dst).Holds kept start) := by
  rintro ⟨⟨ints, objs⟩, cursor⟩ holds u s' ran
  change writeInt p dst (Word.clamp cursor.pos) ⟨⟨ints, objs⟩, cursor⟩ = _ at ran
  unfold writeInt at ran
  dsimp only at ran
  split at ran
  case isFalse => cases ran
  case isTrue inside =>
    cases ran
    refine ⟨holds.home, fun r member here => ?_⟩
    change (ints.setIfInBounds dst.index (Word.clamp cursor.pos))[r.index]? = _
    by_cases same : r = dst
    · subst same
      have pos : cursor.pos = start := holds.home (by simpa [Known.kept] using here)
      have exact' : Word.clamp cursor.pos = start := by
        rw [pos]
        unfold Word.clamp Word.greatest
        omega
      rw [exact', Array.getElem?_setIfInBounds_self_of_lt inside]
    · have other : dst.index ≠ r.index := fun equal => same (congrArg IntSlot.mk equal).symm
      rw [Array.getElem?_setIfInBounds_ne other]
      exact holds.start r member (by simpa [Known.kept, same] using here)

/-- An operation on the text moves only if it succeeds. -/
theorem perform_ensures (args : List Slot) (native : Native) :
    Ensures (k.Holds kept start) (perform env p args native)
      (fun v => (if v.isSome then k.moved else k).Holds kept start) := by
  have consumes (stop : Nat) : Ensures (k.Holds kept start) (some <$> consumeTo env stop)
      (fun v => (if v.isSome then k.moved else k).Holds kept start) :=
    .bind (consumeTo_ensures stop) fun v => .pure (a := some v) fun _ => id
  have stays (s : Local) (holds : k.Holds kept start s) :
      k.moved.Holds kept start s := ⟨nofun, holds.start⟩
  cases native with
  | matchRegex index =>
    refine .bind (lookUp_apart _).ensures fun regex => .bind position_apart.ensures fun pos => ?_
    split
    · exact consumes _
    · exact .pure fun _ => id
  | parseNumber kind =>
    refine .bind position_apart.ensures fun pos => ?_
    split
    · exact .bind (advanceTo_ensures _) fun _ => .pure fun _ => id
    · exact .pure fun _ => id
  | takeChars =>
    refine .bind (readArg_apart args).ensures fun v => ?_
    split
    · refine .bind position_apart.ensures fun pos => ?_
      split
      · exact consumes _
      · exact .pure fun _ => id
    · exact .throw _
  | foldCase =>
    refine .bind (readArg_apart args).ensures fun v => ?_
    split
    · exact .pure stays
    · exact .throw _
  | userObject => exact .pure stays

/-! ## Instructions -/

/-- The ways in which an instruction may lead on. -/
def LeadsTo (p : Program) (i : Instruction) : Control → Prop
  | .next => i.falls = true
  | .goto pc => ∃ label, i.target? = some label ∧ p.target label = .ok pc
  | .ret outcome => outcome = none → i = .ret false
  | .call _ name dst onFail => ∃ index, i = .call index name dst onFail

/-- From any state an action leads on as the instruction may. -/
def LeadsOn (p : Program) (i : Instruction) (act : Exec Control) : Prop :=
  Ensures (fun _ => True) act (fun control _ => LeadsTo p i control)

/-- Two actions lead on as the second one does. -/
theorem LeadsOn.bind {act : Exec α} {go : α → Exec Control} (second : ∀ a, LeadsOn p i (go a)) :
    LeadsOn p i (act >>= go) :=
  Ensures.bind (Q := fun _ _ => True) (fun _ _ _ _ _ => trivial) second

/-- An instruction that falls through leads on to the next one. -/
theorem leadsOn_next (falls : i.falls = true) : LeadsOn p i (pure .next) :=
  Ensures.pure fun _ _ => falls

/-- An instruction with a label leads on to the place of the label. -/
theorem leadsOn_goTo {label : Label} (target : i.target? = some label) :
    LeadsOn p i (goTo p label) :=
  Ensures.bind .lookUp fun _ => .pure fun _ found => ⟨label, target, found.1⟩

/-- An instruction leads on to the next one, to its label, to the end or to a call. -/
theorem execute_leadsOn (i : Instruction) : LeadsOn p i (execute env p i) := by
  cases i with
  | jump target => exact leadsOn_goTo rfl
  | jumpIf cond a b target =>
    have tests (x y : Int) : LeadsOn p (.jumpIf cond a b target)
        (if cond.holds x y then goTo p target else pure Control.next) := by
      split
      · exact leadsOn_goTo rfl
      · exact leadsOn_next rfl
    cases b with
    | slot slot => exact .bind fun x => .bind (tests x)
    | imm n => exact .bind fun x => .bind (tests x)
  | jumpIfObjEq a b target =>
    refine .bind fun x => .bind fun y => ?_
    split
    · exact leadsOn_goTo rfl
    · exact leadsOn_next rfl
  | ret success =>
    cases success with
    | false => exact Ensures.pure fun _ _ _ => rfl
    | true => exact .bind fun _ => Ensures.pure fun _ _ => nofun
  | invoke native args dst onFail =>
    refine .bind fun v => ?_
    split
    · exact .bind fun _ => leadsOn_next rfl
    · exact leadsOn_goTo rfl
  | call index name dst onFail => exact .bind fun _ => Ensures.pure fun _ _ => ⟨index, rfl⟩
  | _ => exact .bind fun _ => leadsOn_next rfl

/-- What is known where an instruction leads. -/
def Control.known (i : Instruction) (k : Known) : Control → Known
  | .next => i.after k
  | _ => k

/-- Behind an action and at the next instruction the same is known, but for what is gathered. -/
theorem holds_control {s : Local} (holds : k.Holds kept start s)
    (home : (i.after k).home = k.home) (same : (i.after k).start = k.start) (control : Control) :
    (control.known i k).Holds kept start s := by
  cases control with
  | next => exact holds.of_eq home same
  | _ => exact holds

/-- What is known where an orderly instruction leads is true there. -/
theorem execute_ensures (short : start < 2 ^ 63)
    (orderly : i.Orderly scans kept fun r => r ∉ kept) :
    Ensures (k.Holds kept start) (execute env p i)
      (fun control => (control.known i k).Holds kept start) := by
  -- At most what is gathered changes.
  have aside (out : i.onText = false) (home : (i.after k).home = k.home)
      (same : (i.after k).start = k.start) : Ensures (k.Holds kept start) (execute env p i)
        (fun control => (control.known i k).Holds kept start) :=
    (execute_apart out (free_of_orderly out orderly)).ensures.mono
      fun control s holds => holds_control holds home same control
  have next {act : Exec Unit}
      (ensures : Ensures (k.Holds kept start) act (fun _ => (i.after k).Holds kept start)) :
      Ensures (k.Holds kept start) (thenNext act)
        (fun control => (control.known i k).Holds kept start) :=
    .bind ensures fun _ => .pure fun _ => id
  cases i with
  | savePos dst => exact next (keepPosition_ensures short dst)
  | restorePos src => exact next (.bind (readPosition_ensures orderly) fun _ => seek_ensures)
  | peekChar dst =>
    refine next (.bind peekChar_ensures fun c => ?_)
    split
    · exact (writeInt_apart orderly _).ensures
    · exact (writeInt_apart orderly _).ensures
  | advance chars => exact next (.bind position_apart.ensures fun pos => advanceTo_ensures _)
  | invoke native args dst onFail =>
    refine .bind (perform_ensures args native) fun v => ?_
    cases v with
    | none => exact .bind (lookUp_apart _).ensures fun _ => .pure fun _ => id
    | some v =>
      refine .bind (storeValue_apart orderly.2 v).ensures fun _ => .pure fun s holds => ?_
      exact holds.of_eq rfl (k.stored_start dst)
  | call index name dst onFail => exact .bind (lookUp_apart _).ensures fun _ => .pure fun _ => id
  | _ => exact aside rfl rfl rfl

/-! ## Turns -/

/-- At a turn of a run that began at `start`, what is known of the place in the program is true;
and a run that has failed is where it began. -/
inductive Turn.InPlace (p : Program) (kept : List IntSlot) (start : Nat) : Turn → Prop where
  /-- At an instruction. -/
  | at {pc : Nat} {k : Known} {regs : Registers} {s : ParseState} (path : p.Path pc k)
      (holds : k.Holds kept start ⟨regs, s.cursor⟩) : InPlace p kept start (.at pc regs s)
  /-- At a call. -/
  | calling {pc : Nat} {k : Known} {index : CalleeIndex} {callee : Handle} {name : Option String}
      {dst : Option Slot} {onFail : Label} {regs : Registers} {s : ParseState} (path : p.Path pc k)
      (here : p.code[pc]? = some (.call index name dst onFail))
      (holds : k.Holds kept start ⟨regs, s.cursor⟩) :
      InPlace p kept start (.calling callee name dst onFail (pc + 1) regs s)
  /-- At the end. -/
  | ended {ending : Ending} (home : ending.1 = .ok none → ending.2.cursor.pos = start) :
      InPlace p kept start (.ended ending)

section

variable {regs : Registers} {state : ParseState} {pc : Nat}
  (orderly : ∀ i ∈ p.code, i.Orderly scans kept fun r => r ∉ kept)

include orderly

/-- An instruction leads a run on in place. -/
theorem performed_inPlace (short : start < 2 ^ 63) (safe : ∀ n, p.Safe n 0 .initial)
    (path : p.Path pc k) (holds : k.Holds kept start ⟨regs, state.cursor⟩) :
    (performed env p pc regs state).InPlace p kept start := by
  obtain ⟨cursor, book⟩ := state
  unfold performed
  dsimp only
  cases fetched : p.instruction pc with
  | error fault => exact .ended nofun
  | ok i =>
    have here : p.code[pc]? = some i := by
      unfold Program.instruction at fetched
      split at fetched
      · cases fetched
        assumption
      · cases fetched
    dsimp only
    cases ran : execute env p i ⟨regs, cursor⟩ with
    | error fault after => exact .ended nofun
    | ok control after =>
      have leads := execute_leadsOn i _ trivial _ _ ran
      have holds' := execute_ensures short (orderly i (Array.mem_of_getElem? here)) _ holds _ _ ran
      cases control with
      | next => exact .at (.next path here leads) holds'
      | goto pc' =>
        obtain ⟨label, target, place⟩ := leads
        exact .at (.leap path here target place) holds'
      | ret outcome =>
        refine .ended fun failed => ?_
        cases failed
        obtain rfl := leads rfl
        exact holds'.home (path.returnsHome safe here)
      | call callee name dst onFail =>
        obtain ⟨index, rfl⟩ := leads
        exact .calling path here holds'

/-- A run goes on in place after its call: a failure has left the position as it was, and after a
success nothing is known of it. -/
theorem resumed_inPlace {index : CalleeIndex} {name : Option String} {dst : Option Slot}
    {onFail : Label} {outcome : Option Product} {state' : ParseState} (path : p.Path pc k)
    (here : p.code[pc]? = some (.call index name dst onFail))
    (holds : k.Holds kept start ⟨regs, state.cursor⟩)
    (stayed : outcome = none → state'.cursor.pos = state.cursor.pos) :
    (resumed p (pc + 1) regs dst onFail outcome state').InPlace p kept start := by
  obtain ⟨cursor, book⟩ := state'
  unfold resumed
  cases outcome with
  | none =>
    dsimp only
    cases place : p.target onFail with
    | error fault => exact .ended nofun
    | ok pc' =>
      exact .at (.leap path here rfl place)
        ⟨fun home => (stayed rfl).trans (holds.home home), holds.start⟩
  | some product =>
    dsimp only
    have free : ∀ r ∈ Slot.scalars dst, r ∉ kept := orderly _ (Array.mem_of_getElem? here)
    have stored' : (k.stored dst).Holds kept start ⟨regs, state.cursor⟩ :=
      holds.of_eq (k.stored_home dst) (k.stored_start dst)
    have behind : (k.stored dst).moved.Holds kept start ⟨regs, cursor⟩ := ⟨nofun, stored'.start⟩
    cases stored : storeProduct p dst product ⟨regs, cursor⟩ with
    | error fault after => exact .ended nofun
    | ok u after =>
      have apart : Apart kept (storeProduct p dst product) := storeProduct_apart free product
      exact .at (.next path here rfl) (apart.ensures _ behind _ _ stored)

/-- Calls that fail leave the position as it is. -/
def Undoing (calls : CallRelation) : Prop :=
  ∀ h name s s', calls h name s (.ok none, s') → s'.cursor.pos = s.cursor.pos

/-- A run that fails ends where it began. -/
theorem Runs.inPlace {calls : CallRelation} {turn : Turn} {ending : Ending}
    (short : start < 2 ^ 63) (safe : ∀ n, p.Safe n 0 .initial)
    (undoing : Undoing calls)
    (inPlace : turn.InPlace p kept start) (runs : Runs env calls p turn ending)
    (failed : ending.1 = .ok none) : ending.2.cursor.pos = start := by
  induction runs with
  | step _ ih =>
    cases inPlace with
    | «at» path holds => exact ih (performed_inPlace orderly short safe path holds) failed
  | faulted call => cases failed
  | called call _ ih =>
    cases inPlace with
    | calling path here holds =>
      refine ih (resumed_inPlace orderly path here holds ?_) failed
      rintro rfl
      exact undoing _ _ _ _ call
  | done =>
    cases inPlace with
    | ended home => exact home failed

end

/-- A run of an orderly program that is back where it began wherever it fails ends there if it
fails, as long as the calls that fail leave the position as it is. -/
theorem Runs.fails_in_place {calls : CallRelation} {s s' : ParseState} (orderly : p.Orderly scans)
    (safe : ∀ n, p.Safe n 0 .initial) (short : s.cursor.pos < 2 ^ 63)
    (undoing : Undoing calls)
    (runs : Runs env calls p (.at 0 (.fresh p) s) (.ok none, s')) :
    s'.cursor.pos = s.cursor.pos := by
  obtain ⟨kept, orderly⟩ := orderly
  exact runs.inPlace orderly short safe undoing (.at .start ⟨fun _ => rfl, nofun⟩) rfl

end Machine

end Packrat
