import Packrat.Proofs.Machine.Frame
import Packrat.Proofs.Machine.Instruction

/-!
# Conclusions of runs

What a run of one program comes to from an instruction on, as a property of the outcomes it may
have. The place in the text, the registers, and what calls keep are followed; how far the text was
examined is left open.

* `Denotes`: a product stands for a value of a type.
* `Realizes`: an ending stands for an outcome.
* `Concluded`: an ending stands for one of several outcomes.
* `Scene`: a program with what its calls do.
* `Goal`: the outcomes that a run may have, from what calls keep at some point.
* `Scene.Concludes`: a run comes to an end that stands for one of several outcomes.

A run that starts inside a character is followed, too: it stays there, unless a fault ends it.
-/

namespace Packrat.Machine

open Text (Within)

/-! ## Products and values -/

/-- The code point of a character is that of the character. -/
theorem charOfCode?_toNat (c : Char) : charOfCode? c.toNat = some c := by
  have valid : ((c.toNat : Nat) : Int).toNat.isValidChar := c.valid
  rw [charOfCode?, if_neg (by omega), dif_pos valid]
  rfl

/-- Values of the type live in object registers. -/
def Boxed (ty : OutputType) : Prop := ty.isVoid = false ∧ ty.isScalar = false

/-- The product of a rule of the given type stands for a value. -/
inductive Denotes : OutputType → Product → Option Value → Prop where
  /-- No value. -/
  | void : Denotes .void .void none
  /-- A character. -/
  | char (c : Char) : Denotes .char (.int c.toNat) (some (.char c))
  /-- An integer. -/
  | int (n : Int) : Denotes .int (.int n) (some (.int n))
  /-- Any other value stands for itself. -/
  | boxed {ty : OutputType} (boxed : Boxed ty) (v : Value) : Denotes ty (.obj v) (some v)

/-- Where there is no value, there is no product. -/
theorem Denotes.of_void {product : Product} {value : Option Value}
    (h : Denotes .void product value) : product = .void ∧ value = none := by
  cases h with
  | void => exact ⟨rfl, rfl⟩
  | boxed boxed => cases boxed.1

/-- The product of a scalar is the content of an integer register. -/
theorem Denotes.of_scalar {ty : OutputType} {product : Product} {value : Option Value}
    (h : Denotes ty product value) (scalar : ty.isScalar = true) :
    ∃ raw v, product = .int raw ∧ value = some v := by
  cases h with
  | void => cases scalar
  | char c => exact ⟨_, _, rfl, rfl⟩
  | int n => exact ⟨_, _, rfl, rfl⟩
  | boxed boxed =>
    rw [boxed.2] at scalar
    cases scalar

/-- The product of any other value is the value. -/
theorem Denotes.of_boxed {ty : OutputType} {product : Product} {value : Option Value}
    (h : Denotes ty product value) (boxed : Boxed ty) : ∃ v, product = .obj v ∧ value = some v := by
  cases h with
  | void => cases boxed.1
  | char => cases boxed.2
  | int => cases boxed.2
  | boxed _ v => exact ⟨v, rfl, rfl⟩

/-- There is a value unless the type has none. -/
theorem Denotes.isNone_eq {ty : OutputType} {product : Product} {value : Option Value}
    (h : Denotes ty product value) : value.isNone = ty.isVoid := by
  cases h with
  | void => rfl
  | char c => rfl
  | int n => rfl
  | boxed boxed v => exact boxed.1.symm

/-- A product is read as the value that it stands for. -/
theorem Denotes.toValue?_eq {ty : OutputType} {product : Product} {value : Option Value}
    (h : Denotes ty product value) : product.toValue? ty = value := by
  cases h with
  | void => rfl
  | char c => simp [Product.toValue?, ScalarKind.box?, charOfCode?_toNat]
  | int n => rfl
  | boxed => rfl

/-- The content of an integer register is boxed to the value that it stands for. -/
theorem Denotes.box?_eq {ty : OutputType} {raw : Int} {value : Option Value}
    (h : Denotes ty (.int raw) value) : (Lowering.scalarKind ty).box? raw = value := by
  cases h with
  | char c => simp [Lowering.scalarKind, ScalarKind.box?, charOfCode?_toNat]
  | int n => rfl

/-! ## Endings and outcomes -/

/-- The ending of a run or a call of a rule of the given type stands for an outcome. -/
def Realizes (ty : OutputType) (out : Outcome) (ending : Ending) : Prop :=
  match out with
  | .matched value stop =>
    ∃ product, ending.1 = .ok (some product) ∧ Denotes ty product value ∧
      ending.2.cursor.pos = stop
  | .failed => ending.1 = .ok none
  | .faulted fault => ending.1 = .error fault

/-- The ending of a run or a call that started at a place stands for one of some outcomes, or the
place lies inside a character and that was noticed. -/
structure Concluded (text : String) (ty : OutputType) (Good : Book → Prop) (start : Nat)
    (Q : Outcome → Prop) (ending : Ending) : Prop where
  outcome : (∃ out, Q out ∧ Realizes ty out ending) ∨
    (Text.isBoundary text start = false ∧
      ∃ name pos, ending.1 = .error (.badPosition name pos))
  within : Within text start ending.2.cursor.pos
  good : Good ending.2.book

section

variable {ty : OutputType} {out : Outcome} {state : ParseState}

/-- An ending with a product stands for a match. -/
theorem Realizes.of_product {product : Product}
    (realizes : Realizes ty out (.ok (some product), state)) :
    ∃ value, out = .matched value state.cursor.pos ∧ Denotes ty product value := by
  cases out with
  | matched value stop =>
    obtain ⟨_, ok, denotes, rfl⟩ := realizes
    cases ok
    exact ⟨value, rfl, denotes⟩
  | failed => cases realizes
  | faulted => cases realizes

/-- An ending without a product stands for a failure. -/
theorem Realizes.of_failure (realizes : Realizes ty out (.ok none, state)) : out = .failed := by
  cases out with
  | matched =>
    obtain ⟨_, ok, _⟩ := realizes
    cases ok
  | failed => rfl
  | faulted => cases realizes

/-- An ending with a fault stands for it. -/
theorem Realizes.of_fault {fault : EngineFault} (realizes : Realizes ty out (.error fault, state)) :
    out = .faulted fault := by
  cases out with
  | matched =>
    obtain ⟨_, ok, _⟩ := realizes
    cases ok
  | failed => cases realizes
  | faulted => cases realizes; rfl

/-- An ending without a fault stands for one of the outcomes. -/
theorem Concluded.of_ok {text : String} {Good : Book → Prop} {start : Nat} {Q : Outcome → Prop}
    {outcome : Option Product} (h : Concluded text ty Good start Q (.ok outcome, state)) :
    ∃ out, Q out ∧ Realizes ty out (.ok outcome, state) :=
  h.outcome.resolve_right (by rintro ⟨_, _, _, ⟨⟩⟩)

end

/-- The ending stands for one of more outcomes. -/
theorem Concluded.mono {text : String} {ty : OutputType} {Good : Book → Prop} {start : Nat}
    {Q Q' : Outcome → Prop} {ending : Ending} (more : ∀ out, Q out → Q' out)
    (h : Concluded text ty Good start Q ending) : Concluded text ty Good start Q' ending where
  outcome := h.outcome.imp_left fun ⟨out, holds, realizes⟩ => ⟨out, more out holds, realizes⟩
  within := h.within
  good := h.good

/-! ## Scenes -/

/-- A program with what is known about its calls. -/
structure Scene where
  /-- What stays fixed. -/
  env : Environment
  /-- How calls can end. -/
  calls : CallRelation
  /-- The program. -/
  program : Program
  /-- The grammar, for the types of the rules called. -/
  grammar : Grammar
  /-- How the rules called may come out. -/
  child : RuleId → Nat → Passage Book Outcome
  /-- What calls keep true of the book. -/
  Good : Book → Prop
  /-- The place where the run started. -/
  start : Nat

/-- The outcomes that a run may have, with the book that each leaves, and the book that the run is
at. -/
structure Goal where
  /-- What calls keep. -/
  book : Book
  /-- The outcomes. -/
  holds : Outcome → Book → Prop

/-- The run may end here with an outcome. -/
instance : CoeFun Goal fun _ => Outcome → Prop := ⟨fun goal out => goal.holds out goal.book⟩

/-- The same outcomes, from another book. -/
abbrev Goal.at (goal : Goal) (book : Book) : Goal := ⟨book, goal.holds⟩

/-- The ways in which something may come out from a book. -/
abbrev Goal.of (ways : Passage Book Outcome) (book : Book) : Goal := ⟨book, ways book⟩

/-- Some outcomes, without any change of the book. -/
abbrev Goal.still (outcomes : Outcome → Prop) (book : Book) : Goal :=
  ⟨book, fun out book' => outcomes out ∧ book' = book⟩

namespace Scene

/-- The calls of the program end as the scene says, and the text is not too long for words. -/
structure Sound (s : Scene) : Prop where
  short : s.env.text.utf8ByteSize < 2 ^ 63
  start_le : s.start ≤ s.env.text.utf8ByteSize
  answers : ∀ (i : Nat) (rule : RuleId) (h : Handle), s.program.callees[i]? = some ⟨rule, some h⟩ →
    ∀ (name : Option String) (state : ParseState), Within s.env.text s.start state.cursor.pos →
    s.Good state.book → ∃ ending, s.calls h name state ending ∧
      Concluded s.env.text (s.grammar.outputOf rule) s.Good state.cursor.pos
        (fun out => s.child rule state.cursor.pos state.book out ending.2.book) ending ∧
      (ending.1 = .ok none → ending.2.cursor.pos = state.cursor.pos)

/-- From an instruction on, with some registers and at some place, the run comes to an end that
stands for one of some outcomes. -/
def Concludes (s : Scene) (Q : Goal) (pc : Nat) (regs : Registers) (pos : Nat) : Prop :=
  regs.Fits s.program → Within s.env.text s.start pos → s.Good Q.book → ∀ furthest : Nat,
    ∃ ending, Runs s.env s.calls s.program (.at pc regs ⟨⟨pos, furthest⟩, Q.book⟩) ending ∧
      Concluded s.env.text s.program.output s.Good s.start (fun out => Q.holds out ending.2.book)
        ending

variable {s : Scene} {Q : Goal} {pc : Nat} {regs : Registers} {pos : Nat} {i : Instruction}

/-- The run comes to one of more outcomes. -/
theorem Concludes.mono (h : s.Concludes Q pc regs pos) {holds : Outcome → Book → Prop}
    (more : ∀ out book, Q.holds out book → holds out book) :
    s.Concludes ⟨Q.book, holds⟩ pc regs pos := by
  intro fits within good furthest
  obtain ⟨ending, runs, concluded⟩ := h fits within good furthest
  exact ⟨ending, runs, concluded.mono fun out => more out _⟩

/-- The run comes to one of more outcomes, without any change of the book. -/
theorem Concludes.mono_still {outcomes outcomes' : Outcome → Prop} {book : Book}
    (h : s.Concludes (.still outcomes book) pc regs pos)
    (more : ∀ out, outcomes out → outcomes' out) :
    s.Concludes (.still outcomes' book) pc regs pos :=
  h.mono fun out _ holds => ⟨more out holds.1, holds.2⟩

/-- The registers fit and the place comes after the start. -/
theorem Concludes.intro (h : regs.Fits s.program → Within s.env.text s.start pos →
    s.Concludes Q pc regs pos) : s.Concludes Q pc regs pos :=
  fun fits within => h fits within fits within

/-! ## Instructions -/

/-- What is performed, where the instruction is there. -/
theorem performed_of {env : Environment} {p : Program} {state : ParseState}
    (found : p.code[pc]? = some i) {control : Control} {regs' : Registers} {cursor : Cursor}
    (exec : execute env p i ⟨regs, state.cursor⟩ = .ok control ⟨regs', cursor⟩) :
    performed env p pc regs state = control.turn pc regs' ⟨cursor, state.book⟩ := by
  obtain ⟨before, book⟩ := state
  simp only [performed, Program.instruction, found]
  rw [exec]

/-- An instruction that goes on with the next one. -/
theorem Concludes.next (found : s.program.code[pc]? = some i) {regs' : Registers} {pos' : Nat}
    (fits : regs.Fits s.program → regs'.Fits s.program)
    (further : Within s.env.text s.start pos → Within s.env.text s.start pos')
    (exec : regs.Fits s.program → ∀ furthest, ∃ furthest',
      execute s.env s.program i ⟨regs, ⟨pos, furthest⟩⟩ = .ok .next ⟨regs', ⟨pos', furthest'⟩⟩)
    (rest : s.Concludes Q (pc + 1) regs' pos') : s.Concludes Q pc regs pos := by
  intro fit within good furthest
  obtain ⟨furthest', exec⟩ := exec fit furthest
  obtain ⟨ending, runs, concluded⟩ := rest (fits fit) (further within) good furthest'
  refine ⟨ending, .step ?_, concluded⟩
  rw [performed_of found exec]
  exact runs

/-- An instruction that goes on elsewhere. -/
theorem Concludes.goto (found : s.program.code[pc]? = some i) {pc' : Nat}
    (exec : regs.Fits s.program → ∀ furthest,
      execute s.env s.program i ⟨regs, ⟨pos, furthest⟩⟩ =
        .ok (.goto pc') ⟨regs, ⟨pos, furthest⟩⟩)
    (rest : s.Concludes Q pc' regs pos) : s.Concludes Q pc regs pos := by
  intro fit within good furthest
  obtain ⟨ending, runs, concluded⟩ := rest fit within good furthest
  refine ⟨ending, .step ?_, concluded⟩
  rw [performed_of found (exec fit furthest)]
  exact runs

/-- An instruction that ends the run. -/
theorem Concludes.ret (found : s.program.code[pc]? = some i) {outcome : Option Product}
    {out : Outcome} (exec : regs.Fits s.program → ∀ furthest, ∃ regs',
      execute s.env s.program i ⟨regs, ⟨pos, furthest⟩⟩ =
        .ok (.ret outcome) ⟨regs', ⟨pos, furthest⟩⟩)
    (realizes : ∀ furthest book,
      Realizes s.program.output out (.ok outcome, ⟨⟨pos, furthest⟩, book⟩))
    (holds : Q out) : s.Concludes Q pc regs pos := by
  intro fit within good furthest
  obtain ⟨regs', exec⟩ := exec fit furthest
  refine ⟨(.ok outcome, ⟨⟨pos, furthest⟩, Q.book⟩), .step ?_,
    ⟨.inl ⟨out, holds, realizes furthest Q.book⟩, within, good⟩⟩
  rw [performed_of found exec]
  exact .done

/-- What is performed, where the instruction ends with a fault. -/
theorem performed_fault {env : Environment} {p : Program} {state : ParseState}
    (found : p.code[pc]? = some i) {fault : EngineFault} {regs' : Registers} {cursor : Cursor}
    (exec : execute env p i ⟨regs, state.cursor⟩ = .error fault ⟨regs', cursor⟩) :
    performed env p pc regs state = .ended (.error fault, ⟨cursor, state.book⟩) := by
  obtain ⟨before, book⟩ := state
  simp only [performed, Program.instruction, found]
  rw [exec]

/-- An instruction that ends the run with a fault. -/
theorem Concludes.fault (found : s.program.code[pc]? = some i) {fault : EngineFault}
    (exec : regs.Fits s.program → ∀ furthest, ∃ regs',
      execute s.env s.program i ⟨regs, ⟨pos, furthest⟩⟩ =
        .error fault ⟨regs', ⟨pos, furthest⟩⟩)
    (holds : Q (.faulted fault) ∨ (Text.isBoundary s.env.text s.start = false ∧
      ∃ name pos, fault = .badPosition name pos)) : s.Concludes Q pc regs pos := by
  intro fit within good furthest
  obtain ⟨regs', exec⟩ := exec fit furthest
  refine ⟨(.error fault, ⟨⟨pos, furthest⟩, Q.book⟩), .step ?_, ⟨?_, within, good⟩⟩
  · rw [performed_fault found exec]
    exact .done
  · rcases holds with holds | ⟨inside, name, pos, rfl⟩
    · exact .inl ⟨.faulted fault, holds, rfl⟩
    · exact .inr ⟨inside, name, pos, rfl⟩

/-- A call of a callee that is linked is a call of its matcher. -/
theorem performed_call {env : Environment} {p : Program} {state : ParseState}
    {index : CalleeIndex} {name : Option String} {dst : Option Slot} {onFail : Label}
    {rule : RuleId} {h : Handle} (found : p.code[pc]? = some (.call index name dst onFail))
    (callee : p.callees[index.index]? = some ⟨rule, some h⟩) :
    performed env p pc regs state = .calling h name dst onFail (pc + 1) regs state := by
  have exec : execute env p (.call index name dst onFail) ⟨regs, state.cursor⟩ =
      .ok (.call h name dst onFail) ⟨regs, state.cursor⟩ := by
    simp only [execute, bind, EStateM.bind, lookUp, Program.callee, callee]
    rfl
  exact performed_of found exec

/-- A call goes on behind a match of the rule called, at its label where that does not match, and
ends where it does. -/
theorem Concludes.call (sound : s.Sound) {index : CalleeIndex} {name : Option String}
    {dst : Option Slot} {onFail : Label} {rule : RuleId} {h : Handle} {pc' : Nat}
    (found : s.program.code[pc]? = some (.call index name dst onFail))
    (callee : s.program.callees[index.index]? = some ⟨rule, some h⟩)
    (place : s.program.labels[onFail.index]? = some (some pc'))
    (inside : SlotInside s.program dst)
    (suits : ∀ product value, Denotes (s.grammar.outputOf rule) product value →
      Suits dst product)
    (matched : ∀ product value stop book, s.child rule pos Q.book (.matched value stop) book →
      Denotes (s.grammar.outputOf rule) product value → Within s.env.text pos stop →
      s.Concludes (Q.at book) (pc + 1) (regs.store dst product) stop)
    (failed : ∀ book, s.child rule pos Q.book .failed book → s.Concludes (Q.at book) pc' regs pos)
    (faulted : ∀ fault book, s.child rule pos Q.book (.faulted fault) book →
      Q.at book (.faulted fault)) : s.Concludes Q pc regs pos := by
  intro fit within good furthest
  obtain ⟨⟨ended, ⟨⟨stop, furthest'⟩, book⟩⟩, calls, concluded, undone⟩ :=
    sound.answers _ rule h callee name ⟨⟨pos, furthest⟩, Q.book⟩ within good
  have calling : performed s.env s.program pc regs ⟨⟨pos, furthest⟩, Q.book⟩ =
      .calling h name dst onFail (pc + 1) regs ⟨⟨pos, furthest⟩, Q.book⟩ :=
    performed_call found callee
  have further := concluded.within
  rcases concluded.outcome with ⟨out, holds, realizes⟩ | ⟨misplaced, name', pos', rfl⟩
  · cases out with
    | matched value stop' =>
      obtain ⟨product, rfl, denotes, rfl⟩ := realizes
      obtain ⟨ending, runs, concluded'⟩ := matched product value stop book holds denotes further
        (fit.store dst product) (within.trans further) concluded.good furthest'
      refine ⟨ending, .step ?_, concluded'⟩
      rw [calling]
      refine .called calls ?_
      simp only [resumed, storeProduct_eq fit inside (suits product value denotes)]
      exact runs
    | failed =>
      cases realizes
      cases undone rfl
      obtain ⟨ending, runs, concluded'⟩ :=
        failed book holds fit within concluded.good furthest'
      refine ⟨ending, .step ?_, concluded'⟩
      rw [calling]
      refine .called calls ?_
      simp only [resumed, Program.target, place]
      exact runs
    | faulted fault =>
      cases realizes
      refine ⟨(.error fault, _), .step ?_, ⟨.inl ⟨.faulted fault, faulted fault book holds, rfl⟩,
        within.trans further, concluded.good⟩⟩
      rw [calling]
      exact .faulted calls
  · refine ⟨_, .step ?_, ⟨.inr ⟨?_, name', pos', rfl⟩, within.trans further, concluded.good⟩⟩
    · rw [calling]
      exact .faulted calls
    · cases boundary : Text.isBoundary s.env.text s.start with
      | false => rfl
      | true => rw [within.isBoundary boundary] at misplaced; cases misplaced

end Scene

end Packrat.Machine
