import Packrat.Proofs.Lowering.Composite

/-!
# Programs of repetitions

A run of the program of a repetition comes out in one of the ways in which its rounds may. The
loop is followed by induction on the rounds left: a round that is counted consumes something, so
there are no more of them than bytes, and the counter stays exact.

* `Gathered`: what is gathered so far, and where it is.
* `repetition_code`: the code in front of the rounds, of a round, and behind the rounds.
* `BetweenRounds`: what the registers hold where a round begins; `concludes_round` keeps it.

Main statement: `repetition_concludes`.
-/

namespace Packrat

/-- The instruction that sets a register up for what is gathered. -/
def Collect.setUp (dst : ObjSlot) : Collect → Instruction
  | .list => .listNew dst
  | .text => .textNew dst

namespace Lowering

open Assemble Machine Meaning
open Text (Within)

variable {s : Scene} {Q : Goal} {cx : Context} {a b : Assembler} {regs : Registers} {pos : Nat}
  {u : Unit} {slot : Option Slot} {book book' book'' : Book}

/-! ## Rounds -/

section

variable {child : RuleId → Nat → Passage Book Outcome} {name : String} {element : RuleId}
  {separator : Option RuleId} {min : Nat} {max : Option Nat} {collect : Collect} {fuel n : Nat}
  {value : Option Value}

/-- With the greatest number of elements a repetition ends. -/
theorem rounds_full (full : isFull max n = true) :
    rounds child name element separator min max collect (fuel + 1) n value pos book
      (enough min n value pos) book := by
  rw [rounds, if_pos full]
  exact ⟨rfl, rfl⟩

/-- A round that is not one too many. -/
theorem rounds_of_round (more : isFull max n = false) {out out' : Outcome}
    (second : (match out with
      | .failed => return enough min n value pos
      | .faulted fault => return .faulted fault
      | .matched item stop =>
        match gather name collect value item with
        | .error fault => return .faulted fault
        | .ok value =>
          if stop = pos then return .matched value stop
          else rounds child name element separator min max collect fuel (n + 1) value stop :
      Passage Book Outcome) book' out' book'')
    (first : onMatch (separated child separator (n == 0) pos) (fun _ mid => child element mid)
      book out book') :
    rounds child name element separator min max collect (fuel + 1) n value pos book out'
      book'' := by
  rw [rounds, if_neg (by rw [more]; exact Bool.false_ne_true)]
  exact ⟨out, book', first, second⟩

/-- A round whose separator or element fails is the last one. -/
theorem rounds_failed (more : isFull max n = false)
    (first : onMatch (separated child separator (n == 0) pos) (fun _ mid => child element mid)
      book .failed book') :
    rounds child name element separator min max collect (fuel + 1) n value pos book
      (enough min n value pos) book' :=
  rounds_of_round more (by exact ⟨rfl, rfl⟩) first

/-- A fault of the separator or the element ends the repetition with it. -/
theorem rounds_faulted (more : isFull max n = false) {fault : EngineFault}
    (first : onMatch (separated child separator (n == 0) pos) (fun _ mid => child element mid)
      book (.faulted fault) book') :
    rounds child name element separator min max collect (fuel + 1) n value pos book
      (.faulted fault) book' :=
  rounds_of_round more (by exact ⟨rfl, rfl⟩) first

variable {item : Option Value} {stop : Nat}
  (first : onMatch (separated child separator (n == 0) pos) (fun _ mid => child element mid)
    book (.matched item stop) book')

include first

/-- An element that cannot be gathered ends the repetition with a fault. -/
theorem rounds_refused (more : isFull max n = false) {fault : EngineFault}
    (refused : gather name collect value item = .error fault) :
    rounds child name element separator min max collect (fuel + 1) n value pos book
      (.faulted fault) book' := by
  refine rounds_of_round more ?_ first
  simp only [refused]
  exact ⟨rfl, rfl⟩

/-- A round that consumes nothing is the last one. -/
theorem rounds_still (more : isFull max n = false) {value' : Option Value}
    (gathered : gather name collect value item = .ok value') (still : stop = pos) :
    rounds child name element separator min max collect (fuel + 1) n value pos book
      (.matched value' stop) book' := by
  refine rounds_of_round more ?_ first
  simp only [gathered, if_pos still]
  exact ⟨rfl, rfl⟩

/-- Any other round is followed by another one. -/
theorem rounds_next (more : isFull max n = false) {value' : Option Value}
    (gathered : gather name collect value item = .ok value') (moved : stop ≠ pos) {out : Outcome}
    (rest : rounds child name element separator min max collect fuel (n + 1) value' stop book' out
      book'') :
    rounds child name element separator min max collect (fuel + 1) n value pos book out book'' := by
  refine rounds_of_round more ?_ first
  simp only [gathered, if_neg moved]
  exact rest

end

/-! ## Gathering -/

/-- What is gathered so far, in the register for it. -/
inductive Gathered (p : Program) (a : Assembler) (regs : Registers) :
    Collect → Option ObjSlot → Option Value → Prop where
  /-- A text. -/
  | text {acc : ObjSlot} {gathered : String} (used : acc.index < a.objSlots)
      (inside : acc.index < p.objSlots) (held : regs.obj acc = .str gathered) :
      Gathered p a regs .text (some acc) (some (.str gathered))
  /-- A list. -/
  | list {acc : ObjSlot} {items : Array Value} (used : acc.index < a.objSlots)
      (inside : acc.index < p.objSlots) (held : regs.obj acc = .list items) :
      Gathered p a regs .list (some acc) (some (.list items))
  /-- Nothing. -/
  | none : Gathered p a regs .list none none

/-- What is gathered is so at later stages. -/
theorem Gathered.mono {p : Program} {collect : Collect} {acc : Option ObjSlot}
    {value : Option Value} (le : a.objSlots ≤ b.objSlots)
    (gathered : Gathered p a regs collect acc value) : Gathered p b regs collect acc value := by
  cases gathered with
  | text used inside held => exact .text (Nat.lt_of_lt_of_le used le) inside held
  | list used inside held => exact .list (Nat.lt_of_lt_of_le used le) inside held
  | none => exact .none

/-- Integer registers do not matter for what is gathered. -/
theorem Gathered.of_obj {p : Program} {collect : Collect} {acc : Option ObjSlot}
    {value : Option Value} {regs' : Registers} (same : ∀ slot, regs'.obj slot = regs.obj slot)
    (gathered : Gathered p a regs collect acc value) : Gathered p a regs' collect acc value := by
  cases gathered with
  | text used inside held => exact .text used inside ((same _).trans held)
  | list used inside held => exact .list used inside ((same _).trans held)
  | none => exact .none

/-- Either nothing is gathered, or a fresh register is set up for it. -/
theorem accumulator_cases {p : Program} {element : RuleId} {collect : Collect}
    {acc : Option ObjSlot} (h : accumulator cx element collect a = (acc, b))
    (placed : Placed p b) :
    (acc = none ∧ b = a ∧ collect = .list ∧ cx.grammar.outputOf element = .void) ∨
      ∃ dst a₁, acc = some dst ∧ objSlot a = (dst, a₁) ∧ Placed p a₁ ∧
        emit (collect.setUp dst) a₁ = ((), b) ∧
          (collect = .list → (cx.grammar.outputOf element).isVoid = false) := by
  unfold accumulator at h
  cases collect with
  | text =>
    obtain ⟨dst, a₁, made, h₁, placed₁⟩ := assemble_split h placed
    obtain ⟨_, a₂, emitted, h₂, _⟩ := assemble_split h₁ placed
    cases h₂
    exact .inr ⟨dst, a₁, rfl, made, placed₁, emitted, nofun⟩
  | list =>
    dsimp only at h
    split at h
    case isTrue void =>
      cases h
      exact .inl ⟨rfl, rfl, rfl, eq_void_of_isVoid void⟩
    case isFalse valued =>
      obtain ⟨dst, a₁, made, h₁, placed₁⟩ := assemble_split h placed
      obtain ⟨_, a₂, emitted, h₂, _⟩ := assemble_split h₁ placed
      cases h₂
      exact .inr ⟨dst, a₁, rfl, made, placed₁, emitted,
        fun _ => Bool.eq_false_of_not_eq_true valued⟩

/-- No integer register is used for what is gathered. -/
theorem accumulator_intSlots {p : Program} {element : RuleId} {collect : Collect}
    {acc : Option ObjSlot} (h : accumulator cx element collect a = (acc, b))
    (placed : Placed p b) : b.intSlots = a.intSlots := by
  rcases accumulator_cases h placed with ⟨_, rfl, _⟩ | ⟨dst, a₁, _, made, placed₁, emitted, _⟩
  · rfl
  · rw [(emit_found emitted placed).2.2.1, (objSlot_fresh made placed₁).1.intSlots]

/-- The register for what is gathered is in use from then on. -/
theorem accumulator_used {p : Program} {element : RuleId} {collect : Collect}
    {acc : Option ObjSlot} (h : accumulator cx element collect a = (acc, b))
    (placed : Placed p b) : ∀ dst ∈ acc, dst.index < b.objSlots := by
  rcases accumulator_cases h placed with ⟨rfl, _⟩ | ⟨dst, a₁, rfl, made, placed₁, emitted, _⟩
  · exact nofun
  · rintro _ ⟨⟩
    rw [(emit_found emitted placed).2.2.2]
    exact (objSlot_fresh made placed₁).1.used

/-- What is gathered is where callers look for the result. -/
theorem accumulator_result {p : Program} {element : RuleId} {collect : Collect}
    {acc : Option ObjSlot} (h : accumulator cx element collect a = (acc, b)) (placed : Placed p b)
    (typed : if collect = .list ∧ cx.grammar.outputOf element = .void then cx.output = .void
      else Boxed cx.output) : ResultSlot p cx.output (acc.map .obj) := by
  have used := accumulator_used h placed
  rcases accumulator_cases h placed with
    ⟨rfl, _, list, void⟩ | ⟨dst, a₁, rfl, made, placed₁, emitted, valued⟩
  · rw [if_pos ⟨list, void⟩] at typed
    exact .void typed
  · have gathers : ¬ (collect = .list ∧ cx.grammar.outputOf element = .void) := by
      rintro ⟨list, void⟩
      have valued := valued list
      rw [void] at valued
      cases valued
    rw [if_neg gathers] at typed
    exact .obj typed (Nat.lt_of_lt_of_le (used dst rfl) placed.objSlots)

/-- The register for what is gathered starts out empty. -/
theorem concludes_accumulator {element : RuleId} {collect : Collect} {acc : Option ObjSlot}
    (h : accumulator cx element collect a = (acc, b)) (placed : Placed s.program b)
    (rest : ∀ regs', (∀ slot, regs'.int slot = regs.int slot) →
      Gathered s.program b regs' collect acc
        (gatheredStart collect (cx.grammar.outputOf element)) →
      s.Concludes Q b.code.size regs' pos) : s.Concludes Q a.code.size regs pos := by
  have used := accumulator_used h placed
  rcases accumulator_cases h placed with
    ⟨rfl, rfl, rfl, void⟩ | ⟨dst, a₁, rfl, made, placed₁, emitted, valued⟩
  · refine rest regs (fun _ => rfl) ?_
    rw [void]
    exact .none
  · have used := used dst rfl
    obtain ⟨fresh, size⟩ := objSlot_fresh made placed₁
    rw [← size]
    refine .intro fun fits _ => ?_
    cases collect with
    | text =>
      exact concludes_setObj emitted placed (fun fits _ => execute_textNew fits fresh.inside)
        (rest _ (fun _ => rfl) (.text used fresh.inside
          (Registers.obj_setObj fits fresh.inside _)))
    | list =>
      refine concludes_setObj emitted placed (fun fits _ => execute_listNew fits fresh.inside)
        (rest _ (fun _ => rfl) ?_)
      rw [gatheredStart, valued rfl]
      exact .list used fresh.inside (Registers.obj_setObj fits fresh.inside _)

/-- What is to be concluded behind an element: the run goes on with what is gathered now, or what
refuses the element is how it comes out. -/
def GoesOnWith (s : Scene) (Q : Goal) (a : Assembler) (regs : Registers) (collect : Collect)
    (acc : Option ObjSlot) (pc pos : Nat) : Except EngineFault (Option Value) → Prop
  | .error fault => Q (.faulted fault)
  | .ok value => ∀ regs' : Registers,
    (∀ slot : IntSlot, slot.index < a.intSlots → regs'.int slot = regs.int slot) →
    Gathered s.program a regs' collect acc value → s.Concludes Q pc regs' pos

/-- A text or a character is added to a text. -/
theorem concludes_appendText (named : s.program.name = cx.name) {ty : OutputType}
    (textual : ty = .text ∨ ty = .char) {acc : ObjSlot} {item : Option Slot} {gathered : String}
    {value : Option Value} {product : Product} {c : Assembler}
    (fresh : FreshSlot s.program ty a item b) (denotes : Denotes ty product value)
    (h : appendText acc item b = (u, c)) (placed : Placed s.program c)
    (fits : regs.Fits s.program) (used : acc.index < a.objSlots)
    (inside : acc.index < s.program.objSlots) (held : regs.obj acc = .str gathered)
    (rest : GoesOnWith s Q a regs .text (some acc) c.code.size pos
      (gather cx.name .text (some (.str gathered)) value)) :
    s.Concludes Q b.code.size (regs.store item product) pos := by
  unfold appendText at h
  rcases textual with rfl | rfl
  · obtain ⟨v, rfl, rfl⟩ := denotes.of_boxed ⟨rfl, rfl⟩
    cases fresh with
    | void void => cases void
    | int scalar => cases scalar
    | @obj item _ _ fresh =>
      have filled : (regs.setObj item v).obj item = v := Registers.obj_setObj fits fresh.inside v
      have held' : (regs.setObj item v).obj acc = .str gathered := by
        rw [Registers.obj_setObj_of_ne (by rw [fresh.index]; omega), held]
      refine concludes_textPush h placed inside fresh.inside (by rw [fresh.index]; omega)
        held' (fun more adds regs₂ same stored => ?_) (fun refused => ?_)
      · rw [Registers.store_obj, filled] at adds
        rw [gather, adds] at rest
        exact rest regs₂ (fun slot _ => same slot) (.text used inside stored)
      · rw [Registers.store_obj, filled] at refused ⊢
        rw [gather, refused] at rest
        rw [named]
        exact rest
  · obtain ⟨n, v, rfl, rfl⟩ := denotes.of_scalar rfl
    cases denotes with
    | char d =>
      cases fresh with
      | void void => cases void
      | obj boxed => cases boxed.2
      | @int item _ _ fresh =>
        have filled : (regs.setInt item d.toNat).int item = d.toNat :=
          Registers.int_setInt fits fresh.inside _
        have code : charOfCode? ((regs.setInt item d.toNat).int item) = some d := by
          rw [filled, charOfCode?_toNat]
        refine concludes_textPushChar h placed inside fresh.inside held code
          fun regs₂ same stored => ?_
        rw [← String.append_singleton] at stored
        rw [gather, addedText] at rest
        refine rest regs₂ (fun slot used => (same slot).trans ?_) (.text used inside stored)
        exact Registers.int_setInt_of_ne (by rw [fresh.index]; omega) _

/-- An element that matches is gathered. -/
theorem concludes_gatherElement (sound : s.Sound) (grammar : s.grammar = cx.grammar)
    (named : s.program.name = cx.name) {element : RuleId} {collect : Collect}
    {acc : Option ObjSlot} {value : Option Value} {rollback : Label} {pc : Nat}
    (emits : Emits (gatherElement cx element collect acc rollback) a u b)
    (placed : Placed s.program b) (place : s.program.labels[rollback.index]? = some (some pc))
    (textual : collect = .text →
      cx.grammar.outputOf element = .text ∨ cx.grammar.outputOf element = .char)
    (gathered : Gathered s.program a regs collect acc value)
    (goesOn : Continues s Q element pos pc regs fun item stop Q =>
      GoesOnWith s Q a regs collect acc b.code.size stop (gather cx.name collect value item)) :
    s.Concludes Q a.code.size regs pos := by
  cases gathered with
  | none =>
    refine concludes_callVoid sound emits placed place
      ⟨fun item stop book comes within typed => ?_, goesOn.failed, goesOn.faulted⟩
    exact goesOn.matched item stop book comes within typed regs (fun _ _ => rfl) .none
  | @list acc items used inside held =>
    obtain ⟨item, c, called, e₁, placed₁⟩ := emits.split placed
    have pushed := e₁.assembled
    obtain ⟨fresh, inside'⟩ := callObject_fresh called placed₁
    refine concludes_callObject sound grammar called placed₁ place
      ⟨fun value stop book comes within typed regs₁ keeps filled => ?_, goesOn.failed,
        goesOn.faulted⟩
    refine concludes_listPush pushed placed inside inside' (by omega)
      ((keeps.obj acc used).trans held) fun regs₂ same stored => ?_
    refine goesOn.matched value stop book comes within typed regs₂ (fun slot used => ?_) ?_
    · exact (same slot).trans (keeps.int slot used)
    · rw [filled] at stored
      exact .list used inside stored
  | @text acc gathered used inside held =>
    obtain ⟨item, c, called, e₁, placed₁⟩ := emits.split placed
    refine .intro fun fits _ => concludes_callNatural sound grammar called placed₁ place
      ⟨fun value stop book comes within typed product denotes => ?_, goesOn.failed, goesOn.faulted⟩
    exact concludes_appendText named (textual rfl) (callNatural_fresh called placed₁) denotes
      e₁.assembled placed fits used inside held (goesOn.matched value stop book comes within typed)

/-! ## Tests of a round -/

/-- The test for the greatest number of elements goes to the label just if it is reached. -/
theorem concludes_testGreatest {count : IntSlot} {max : Option Nat} {done : Label} {pc n : Nat}
    (h : testGreatest count max done a = (u, b)) (placed : Placed s.program b)
    (inside : count.index < s.program.intSlots)
    (place : s.program.labels[done.index]? = some (some pc)) (counted : regs.int count = n)
    (full : isFull max n = true → s.Concludes Q pc regs pos)
    (more : isFull max n = false → s.Concludes Q b.code.size regs pos) :
    s.Concludes Q a.code.size regs pos := by
  cases max with
  | none =>
    cases h
    exact more rfl
  | some bound =>
    refine concludes_jumpIf h placed inside place (fun taken => full ?_) (fun passed => more ?_)
    · simpa [Cond.holds, counted, isFull] using taken
    · simpa [Cond.holds, counted, isFull] using passed

/-- The test for the greatest number of elements takes no registers. -/
theorem testGreatest_slots {p : Program} {count : IntSlot} {max : Option Nat} {done : Label}
    (h : testGreatest count max done a = (u, b)) (placed : Placed p b) :
    b.intSlots = a.intSlots ∧ b.objSlots = a.objSlots := by
  cases max with
  | none =>
    cases h
    exact ⟨rfl, rfl⟩
  | some bound =>
    obtain ⟨_, _, intSlots, objSlots⟩ := emit_found h placed
    exact ⟨intSlots, objSlots⟩

/-- The test for the least number of elements goes to the label just if there are fewer. -/
theorem concludes_testLeast {count : IntSlot} {min : Nat} {fail : Label} {pc n : Nat}
    (h : testLeast count min fail a = (u, b)) (placed : Placed s.program b)
    (inside : count.index < s.program.intSlots)
    (place : s.program.labels[fail.index]? = some (some pc)) (counted : regs.int count = n)
    (few : n < min → s.Concludes Q pc regs pos)
    (enough : ¬ n < min → s.Concludes Q b.code.size regs pos) :
    s.Concludes Q a.code.size regs pos := by
  unfold testLeast at h
  by_cases positive : 0 < min
  · rw [if_pos positive] at h
    refine concludes_jumpIf h placed inside place (fun taken => few ?_)
      (fun passed => enough ?_)
    · simpa [Cond.holds, counted] using taken
    · simpa [Cond.holds, counted] using passed
  · rw [if_neg positive] at h
    cases h
    exact enough (by omega)

/-- The separator is matched unless no element is matched yet. -/
theorem concludes_separateElement (sound : s.Sound) {count : IntSlot}
    {separator : Option RuleId} {first done : Label} {pcDone n : Nat}
    (emits : Emits (separateElement count separator first done) a u b)
    (placed : Placed s.program b) (inside : count.index < s.program.intSlots)
    (firstPlace : s.program.labels[first.index]? = some (some b.code.size))
    (donePlace : s.program.labels[done.index]? = some (some pcDone))
    (counted : regs.int count = n)
    (matched : ∀ value mid book,
      separated s.child separator (n == 0) pos Q.book (.matched value mid) book →
      Within s.env.text pos mid → s.Concludes (Q.at book) b.code.size regs mid)
    (failed : ∀ book, separated s.child separator (n == 0) pos Q.book .failed book →
      s.Concludes (Q.at book) pcDone regs pos)
    (faulted : ∀ fault book,
      separated s.child separator (n == 0) pos Q.book (.faulted fault) book →
      Q.at book (.faulted fault)) : s.Concludes Q a.code.size regs pos := by
  unfold separateElement at emits
  cases separator with
  | none =>
    obtain ⟨_, rfl⟩ := emits.returned
    exact matched none pos _ ⟨rfl, rfl⟩ .refl
  | some separator =>
    obtain ⟨_, a₁, tested, e₁, placed₁⟩ := emits.step placed
    refine concludes_jumpIf tested placed₁ inside firstPlace (fun taken => ?_) (fun passed => ?_)
    · have none : n = 0 := by simpa [Cond.holds, counted] using taken
      subst none
      exact matched .none pos _ ⟨rfl, rfl⟩ .refl
    · have some : (n == 0) = false := by simpa [Cond.holds, counted] using passed
      rw [some] at matched failed faulted
      exact concludes_callVoid sound e₁ placed donePlace
        ⟨fun value mid book comes within _ => matched value mid book comes within, failed, faulted⟩

/-- The separator between elements takes no registers. -/
theorem separateElement_slots {p : Program} {count : IntSlot} {separator : Option RuleId}
    {first done : Label} (emits : Emits (separateElement count separator first done) a u b)
    (placed : Placed p b) : b.intSlots = a.intSlots ∧ b.objSlots = a.objSlots := by
  unfold separateElement at emits
  cases separator with
  | none =>
    obtain ⟨_, rfl⟩ := emits.returned
    exact ⟨rfl, rfl⟩
  | some separator =>
    obtain ⟨_, a₁, tested, e₁, placed₁⟩ := emits.step placed
    obtain ⟨_, _, intSlots, objSlots⟩ := emit_found tested placed₁
    obtain ⟨intSlots', objSlots'⟩ := callVoid_slots e₁ placed
    exact ⟨intSlots'.trans intSlots, objSlots'.trans objSlots⟩

/-! ## The code of a repetition -/

/-- The elements of a repetition that gathers text produce texts or characters. -/
theorem textual_of_checked {element : RuleId} {min : Nat} {max : Option Nat} {collect : Collect}
    (checked : checkRepetition cx element min max collect = .ok ()) (text : collect = .text) :
    cx.grammar.outputOf element = .text ∨ cx.grammar.outputOf element = .char := by
  have fits : checkRepetition.checkElement cx element collect = .ok () := by
    cases max with
    | none => exact checked
    | some bound =>
      rw [checkRepetition] at checked
      split at checked
      · cases checked
      · exact checked
  rw [checkRepetition.checkElement] at fits
  split at fits
  case isTrue => cases fits
  case isFalse allowed =>
    by_cases isText : cx.grammar.outputOf element = .text
    · exact .inl isText
    · exact .inr (Decidable.byContradiction fun notChar => allowed ⟨text, isText, notChar⟩)

/-- The bounds of a repetition are in order. -/
theorem ordered_of_checked {element : RuleId} {min : Nat} {max : Option Nat} {collect : Collect}
    (checked : checkRepetition cx element min max collect = .ok ()) :
    ∀ bound ∈ max, min ≤ bound := by
  rintro bound ⟨⟩
  rw [checkRepetition] at checked
  split at checked
  · cases checked
  case isFalse ordered => exact Nat.le_of_not_lt ordered

/-- The check of a repetition that is lowered has succeeded. -/
theorem checkRepetition_of_emits {element : RuleId} {separator : Option RuleId} {min : Nat}
    {max : Option Nat} {collect : Collect}
    (emits : Emits (repetition cx element separator min max collect) a slot b) :
    checkRepetition cx element min max collect = .ok () := by
  unfold repetition at emits
  cases checked : checkRepetition cx element min max collect with
  | ok => rfl
  | error e =>
    rw [checked] at emits
    exact emits.not_thrown.elim

/-- The labels of a repetition. -/
structure LoopLabels where
  /-- The end of a run that fails. -/
  fail : Label
  /-- The beginning of a round. -/
  top : Label
  /-- The element of the round. -/
  first : Label
  /-- The end of a repetition whose last round has to be undone. -/
  rollback : Label
  /-- The end of a repetition whose elements are to be counted. -/
  done : Label
  /-- The end of a run that succeeds. -/
  accept : Label

/-- The code in front of the first round keeps the position and sets up the registers for the number
of elements and for what is gathered. -/
inductive OpeningCode (p : Program) (cx : Context) (element : RuleId) (collect : Collect)
    (a : Assembler) (start count : IntSlot) (acc : Option ObjSlot) (b : Assembler) : Prop where
  | intro {a₁ a₂ a₃ a₄ : Assembler}
      (saved : savePos a = (start, a₁)) (placed₁ : Placed p a₁) (labelled : a₁.Still a₂)
      (made : intSlot a₂ = (count, a₃)) (placed₃ : Placed p a₃)
      (zeroed : emit (.loadImm count 0) a₃ = ((), a₄)) (placed₄ : Placed p a₄)
      (gathers : accumulator cx element collect a₄ = (acc, b)) (placed : Placed p b) :
    OpeningCode p cx element collect a start count acc b

/-- The code of a round in front of its element keeps where the round began. -/
inductive RoundHead (p : Program) (separator : Option RuleId) (max : Option Nat)
    (count iter : IntSlot) (labels : LoopLabels) (a b : Assembler) : Prop where
  | intro {a₁ a₂ a₃ a₄ : Assembler}
      (begins : mark labels.top a = ((), a₁)) (placed₁ : Placed p a₁)
      (tested : testGreatest count max labels.done a₁ = ((), a₂)) (placed₂ : Placed p a₂)
      (saved : savePos a₂ = (iter, a₃)) (placed₃ : Placed p a₃)
      (separates : Emits (separateElement count separator labels.first labels.done) a₃ () a₄)
      (placed₄ : Placed p a₄)
      (marked : mark labels.first a₄ = ((), b)) (placed : Placed p b) :
    RoundHead p separator max count iter labels a b

/-- The code of a round behind its element goes back to the top if the round consumed something. -/
inductive RoundTail (p : Program) (count iter : IntSlot) (labels : LoopLabels) (a b : Assembler) :
    Prop where
  | intro {a₁ a₂ a₃ : Assembler} {after : IntSlot}
      (increased : emit (.addImm count 1) a = ((), a₁)) (placed₁ : Placed p a₁)
      (saved : savePos a₁ = (after, a₂)) (placed₂ : Placed p a₂)
      (compared : jumpIfSlot .eq after iter labels.accept a₂ = ((), a₃)) (placed₃ : Placed p a₃)
      (again : jump labels.top a₃ = ((), b)) (placed : Placed p b) :
    RoundTail p count iter labels a b

/-- The code of a round. -/
inductive RoundCode (p : Program) (cx : Context) (element : RuleId) (separator : Option RuleId)
    (max : Option Nat) (collect : Collect) (count iter : IntSlot) (acc : Option ObjSlot)
    (labels : LoopLabels) (a b : Assembler) : Prop where
  | intro {a₁ a₂ : Assembler} (head : RoundHead p separator max count iter labels a a₁)
      (gathers : Emits (gatherElement cx element collect acc labels.rollback) a₁ () a₂)
      (placed : Placed p a₂) (tail : RoundTail p count iter labels a₂ b) :
    RoundCode p cx element separator max collect count iter acc labels a b

/-- The code behind the last round. -/
inductive EndsCode (p : Program) (min : Nat) (start count iter : IntSlot) (labels : LoopLabels)
    (a b : Assembler) : Prop where
  | intro {a₁ a₂ a₃ a₄ a₅ a₆ : Assembler}
      (undoes : mark labels.rollback a = ((), a₁)) (placed₁ : Placed p a₁)
      (restored : restorePos iter a₁ = ((), a₂)) (placed₂ : Placed p a₂)
      (ends : mark labels.done a₂ = ((), a₃)) (placed₃ : Placed p a₃)
      (tested : testLeast count min labels.fail a₃ = ((), a₄)) (placed₄ : Placed p a₄)
      (accepts : mark labels.accept a₄ = ((), a₅)) (placed₅ : Placed p a₅)
      (returned : ret true a₅ = ((), a₆)) (placed₆ : Placed p a₆)
      (tail : failTail labels.fail (some start) a₆ = ((), b)) (placed : Placed p b) :
    EndsCode p min start count iter labels a b

/-- The code of a repetition, in front of its rounds, of a round, and behind its rounds. -/
theorem repetition_code {p : Program} {element : RuleId} {separator : Option RuleId} {min : Nat}
    {max : Option Nat} {collect : Collect}
    (emits : Emits (repetition cx element separator min max collect) a slot b)
    (placed : Placed p b) :
    ∃ (start count iter : IntSlot) (acc : Option ObjSlot) (labels : LoopLabels)
      (top bottom : Assembler), slot = acc.map .obj ∧
      OpeningCode p cx element collect a start count acc top ∧
      RoundCode p cx element separator max collect count iter acc labels top bottom ∧
      EndsCode p min start count iter labels bottom b := by
  unfold repetition at emits
  rw [checkRepetition_of_emits emits] at emits
  obtain ⟨start, a₁, saved, e₁, placed₁⟩ := emits.step placed
  obtain ⟨fail, a₂, l₂, e₂, _⟩ := e₁.step placed
  obtain ⟨top, a₃, l₃, e₃, _⟩ := e₂.step placed
  obtain ⟨first, a₄, l₄, e₄, _⟩ := e₃.step placed
  obtain ⟨rollback, a₅, l₅, e₅, _⟩ := e₄.step placed
  obtain ⟨done, a₆, l₆, e₆, _⟩ := e₅.step placed
  obtain ⟨accept, a₇, l₇, e₇, _⟩ := e₆.step placed
  obtain ⟨count, a₈, made, e₈, placed₈⟩ := e₇.step placed
  obtain ⟨_, a₉, zeroed, e₉, placed₉⟩ := e₈.step placed
  obtain ⟨acc, a₁₀, accMade, e₁₀, placed₁₀⟩ := e₉.step placed
  obtain ⟨_, a₁₁, begins, e₁₁, placed₁₁⟩ := e₁₀.step placed
  obtain ⟨_, a₁₂, tested, e₁₂, placed₁₂⟩ := e₁₁.step placed
  obtain ⟨iter, a₁₃, iterSaved, e₁₃, placed₁₃⟩ := e₁₂.step placed
  obtain ⟨_, a₁₄, separates, e₁₄, placed₁₄⟩ := e₁₃.split placed
  obtain ⟨_, a₁₅, marked, e₁₅, placed₁₅⟩ := e₁₄.step placed
  obtain ⟨_, a₁₆, gathers, e₁₆, placed₁₆⟩ := e₁₅.split placed
  obtain ⟨_, a₁₇, increased, e₁₇, placed₁₇⟩ := e₁₆.step placed
  obtain ⟨after, a₁₈, afterSaved, e₁₈, placed₁₈⟩ := e₁₇.step placed
  obtain ⟨_, a₁₉, compared, e₁₉, placed₁₉⟩ := e₁₈.step placed
  obtain ⟨_, a₂₀, again, e₂₀, placed₂₀⟩ := e₁₉.step placed
  obtain ⟨_, a₂₁, undoes, e₂₁, placed₂₁⟩ := e₂₀.step placed
  obtain ⟨_, a₂₂, restored, e₂₂, placed₂₂⟩ := e₂₁.step placed
  obtain ⟨_, a₂₃, ends, e₂₃, placed₂₃⟩ := e₂₂.step placed
  obtain ⟨_, a₂₄, least, e₂₄, placed₂₄⟩ := e₂₃.step placed
  obtain ⟨_, a₂₅, accepts, e₂₅, placed₂₅⟩ := e₂₄.step placed
  obtain ⟨_, a₂₆, returned, e₂₆, placed₂₆⟩ := e₂₅.step placed
  obtain ⟨_, a₂₇, tail, e₂₇, placed₂₇⟩ := e₂₆.step placed
  obtain ⟨rfl, rfl⟩ := e₂₇.returned
  have labelled : a₁.Still a₇ := (newLabel_still l₂).trans ((newLabel_still l₃).trans
    ((newLabel_still l₄).trans ((newLabel_still l₅).trans ((newLabel_still l₆).trans
      (newLabel_still l₇)))))
  exact ⟨start, count, iter, acc, ⟨fail, top, first, rollback, done, accept⟩, a₁₀, a₂₀, rfl,
    .intro saved placed₁ labelled made placed₈ zeroed placed₉ accMade placed₁₀,
    .intro (.intro begins placed₁₁ tested placed₁₂ iterSaved placed₁₃ separates placed₁₄ marked
      placed₁₅) gathers placed₁₆ (.intro increased placed₁₇ afterSaved placed₁₈ compared placed₁₉
      again placed₂₀),
    .intro undoes placed₂₁ restored placed₂₂ ends placed₂₃ least placed₂₄ accepts placed₂₅ returned
      placed₂₆ tail placed⟩

/-- The registers of a repetition for where it began and for the number of elements. -/
structure LoopSlots (p : Program) (a : Assembler) (start count : IntSlot) : Prop where
  order : start.index < count.index
  used : count.index < a.intSlots
  inside : count.index < p.intSlots

/-- The code in front of the first round has registers for where it began and for the number of
elements. -/
theorem OpeningCode.slots {p : Program} {element : RuleId} {collect : Collect}
    {start count : IntSlot} {acc : Option ObjSlot}
    (code : OpeningCode p cx element collect a start count acc b) : LoopSlots p b start count := by
  obtain ⟨saved, placed₁, labelled, made, placed₃, zeroed, placed₄, gathers, placed⟩ := code
  have count_fresh := (intSlot_fresh made placed₃).1
  refine ⟨?_, ?_, count_fresh.inside⟩
  · rw [count_fresh.index, labelled.intSlots]
    exact (savePos_fresh saved placed₁).used
  · rw [accumulator_intSlots gathers placed, (emit_found zeroed placed₄).2.2.1]
    exact count_fresh.used

/-- The register for what is gathered is in use behind that code. -/
theorem OpeningCode.used {p : Program} {element : RuleId} {collect : Collect}
    {start count : IntSlot} {acc : Option ObjSlot}
    (code : OpeningCode p cx element collect a start count acc b) :
    ∀ dst ∈ acc, dst.index < b.objSlots := by
  obtain ⟨_, _, _, _, _, _, _, gathers, placed⟩ := code
  exact accumulator_used gathers placed

/-- What is gathered is where callers look for the result. -/
theorem OpeningCode.result {p : Program} {element : RuleId} {collect : Collect}
    {start count : IntSlot} {acc : Option ObjSlot}
    (code : OpeningCode p cx element collect a start count acc b)
    (typed : if collect = .list ∧ cx.grammar.outputOf element = .void then cx.output = .void
      else Boxed cx.output) : ResultSlot p cx.output (acc.map .obj) := by
  obtain ⟨_, _, _, _, _, _, _, gathers, placed⟩ := code
  exact accumulator_result gathers placed typed

/-- The register for where a round began is a fresh one. -/
theorem RoundHead.fresh {p : Program} {separator : Option RuleId} {max : Option Nat}
    {count iter : IntSlot} {labels : LoopLabels}
    (head : RoundHead p separator max count iter labels a b) : FreshInt p a iter b := by
  obtain ⟨begins, placed₁, tested, placed₂, saved, placed₃, separates, placed₄, marked, placed⟩ :=
    head
  have begun := (mark_placed begins placed₁).2
  have still := (mark_placed marked placed).2
  obtain ⟨index, intSlots, objSlots, inside⟩ := savePos_fresh saved placed₃
  obtain ⟨ints, objs⟩ := testGreatest_slots tested placed₂
  obtain ⟨ints', objs'⟩ := separateElement_slots separates placed₄
  have same := ints.trans begun.intSlots
  exact ⟨index.trans same, by rw [still.intSlots, ints', intSlots, same],
    by rw [still.objSlots, objs', objSlots, objs, begun.objSlots], inside⟩

/-- The register for where a round began is one of the program. -/
theorem RoundCode.iter_inside {p : Program} {element : RuleId} {separator : Option RuleId}
    {max : Option Nat} {collect : Collect} {count iter : IntSlot} {acc : Option ObjSlot}
    {labels : LoopLabels}
    (code : RoundCode p cx element separator max collect count iter acc labels a b) :
    iter.index < p.intSlots := by
  obtain ⟨head⟩ := code
  exact head.fresh.inside

/-! ## Ends of a repetition -/

/-- What is gathered is the result of a repetition. -/
theorem concludes_gathered {c : Assembler} {collect : Collect} {acc : Option ObjSlot}
    {value : Option Value} (h : ret true a = (u, b)) (placed : Placed s.program b)
    (result : s.program.result = acc.map .obj)
    (typed : ResultSlot s.program s.program.output (acc.map .obj))
    (gathered : Gathered s.program c regs collect acc value)
    (holds : Q (.matched value pos)) : s.Concludes Q a.code.size regs pos := by
  cases gathered with
  | text _ inside held =>
    cases typed with
    | obj boxed => exact concludes_succeed_obj h placed result inside boxed held holds
  | list _ inside held =>
    cases typed with
    | obj boxed => exact concludes_succeed_obj h placed result inside boxed held holds
  | none =>
    cases typed with
    | void void => exact concludes_succeed_void h placed result void holds

/-- The registers of a repetition between two rounds. -/
structure BetweenRounds (s : Scene) (a : Assembler) (start count : IntSlot)
    (collect : Collect) (acc : Option ObjSlot) (regs : Registers) (n : Nat)
    (value : Option Value) : Prop where
  start : regs.int start = s.start
  count : regs.int count = n
  acc : Gathered s.program a regs collect acc value

/-- Other integer registers do not matter between two rounds. -/
theorem BetweenRounds.setInt {start count dst : IntSlot} {collect : Collect}
    {acc : Option ObjSlot} {n : Nat} {value : Option Value}
    (between : BetweenRounds s a start count collect acc regs n value)
    (start_ne : start.index ≠ dst.index) (count_ne : count.index ≠ dst.index) (k : Int) :
    BetweenRounds s a start count collect acc (regs.setInt dst k) n value where
  start := (Registers.int_setInt_of_ne start_ne k).trans between.start
  count := (Registers.int_setInt_of_ne count_ne k).trans between.count
  acc := between.acc.of_obj (by intro; rfl)

section

variable {min : Nat} {start count iter : IntSlot} {collect : Collect} {acc : Option ObjSlot}
  {labels : LoopLabels}

/-- What a run concludes that comes to an end of a repetition. -/
structure LoopEnds (s : Scene) (a : Assembler) (min : Nat) (start count iter : IntSlot)
    (collect : Collect) (acc : Option ObjSlot) (labels : LoopLabels) : Prop where
  /-- The repetition succeeds. -/
  accept : ∃ pc, s.program.labels[labels.accept.index]? = some (some pc) ∧
    ∀ {Q : Goal} {regs : Registers} {pos : Nat} {value : Option Value},
      Gathered s.program a regs collect acc value → Q (.matched value pos) →
      s.Concludes Q pc regs pos
  /-- There may be too few elements. -/
  done : ∃ pc, s.program.labels[labels.done.index]? = some (some pc) ∧
    ∀ {Q : Goal} {regs : Registers} {pos n : Nat} {value : Option Value},
      BetweenRounds s a start count collect acc regs n value → Q (enough min n value pos) →
      s.Concludes Q pc regs pos
  /-- The last round is undone first. -/
  rollback : ∃ pc, s.program.labels[labels.rollback.index]? = some (some pc) ∧
    ∀ {Q : Goal} {regs : Registers} {pos pos' n : Nat} {value : Option Value},
      BetweenRounds s a start count collect acc regs n value → regs.int iter = pos →
      Within s.env.text s.start pos → Q (enough min n value pos) → s.Concludes Q pc regs pos'

/-- A run concludes at the ends of a repetition what it has to. -/
theorem EndsCode.ends {c : Assembler}
    (code : EndsCode s.program min start count iter labels a b)
    (slots : LoopSlots s.program c start count) (iter_inside : iter.index < s.program.intSlots)
    (result : s.program.result = acc.map .obj)
    (typed : ResultSlot s.program s.program.output (acc.map .obj)) :
    LoopEnds s c min start count iter collect acc labels := by
  obtain @⟨a₁, a₂, a₃, a₄, a₅, a₆, undoes, placed₁, restored, placed₂, ends, placed₃, tested,
    placed₄, accepts, placed₅, returned, placed₆, tail, placed⟩ := code
  have start_inside := Nat.lt_trans slots.order slots.inside
  obtain ⟨failPlace, failed⟩ := concludes_failTail tail placed
  obtain ⟨acceptPlace, accepting⟩ := mark_placed accepts placed₅
  obtain ⟨donePlace, ending⟩ := mark_placed ends placed₃
  obtain ⟨rollbackPlace, undoing⟩ := mark_placed undoes placed₁
  have succeed {Q : Goal} {regs : Registers} {pos : Nat} {value : Option Value}
      (gathered : Gathered s.program c regs collect acc value) (holds : Q (.matched value pos)) :
      s.Concludes Q a₄.code.size regs pos :=
    concludes_still accepting (concludes_gathered returned placed₆ result typed gathered holds)
  have finish {Q : Goal} {regs : Registers} {pos n : Nat} {value : Option Value}
      (between : BetweenRounds s c start count collect acc regs n value)
      (holds : Q (enough min n value pos)) : s.Concludes Q a₂.code.size regs pos := by
    refine concludes_still ending (concludes_testLeast tested placed₄ slots.inside failPlace
      between.count (fun few => ?_) fun notFew => ?_)
    · rw [enough, if_pos few] at holds
      refine failed Q regs pos (fun slot here => ?_) holds
      cases here
      exact ⟨start_inside, between.start⟩
    · rw [enough, if_neg notFew] at holds
      exact succeed between.acc holds
  exact ⟨⟨_, acceptPlace, succeed⟩, ⟨_, donePlace, finish⟩, ⟨_, rollbackPlace,
    fun between kept within holds => concludes_still undoing
      (concludes_restorePos restored placed₂ iter_inside kept within (finish between holds))⟩⟩

end

/-! ## The loop -/

/-- The beginning of a repetition. -/
theorem concludes_opening (sound : s.Sound) {element : RuleId} {collect : Collect}
    {start count : IntSlot} {acc : Option ObjSlot}
    (code : OpeningCode s.program cx element collect a start count acc b)
    (rest : ∀ regs', BetweenRounds s b start count collect acc regs' 0
        (gatheredStart collect (cx.grammar.outputOf element)) →
      s.Concludes Q b.code.size regs' s.start) : s.Concludes Q a.code.size regs s.start := by
  have slots := code.slots
  obtain ⟨saved, placed₁, labelled, made, placed₃, zeroed, placed₄, gathers, placed⟩ := code
  have start_inside := Nat.lt_trans slots.order slots.inside
  refine .intro fun fits _ => concludes_savePos sound saved placed₁ (concludes_still labelled ?_)
  have kept := Registers.int_setInt fits start_inside (s.start : Int)
  rw [← (intSlot_fresh made placed₃).2]
  refine .intro fun fits _ => concludes_loadImm zeroed placed₄ slots.inside
    (concludes_accumulator gathers placed fun regs' same held => rest regs' ⟨?_, ?_, held⟩)
  · rw [same, Registers.int_setInt_of_ne (Nat.ne_of_lt slots.order), kept]
  · rw [same, Registers.int_setInt fits slots.inside]
    rfl

/-- The end of a round that ended at `stop`: one more element is counted, and the repetition goes on
if the round consumed something. -/
theorem concludes_roundEnd (sound : s.Sound) {start count iter : IntSlot} {labels : LoopLabels}
    {a₀ : Assembler} (tail : RoundTail s.program count iter labels a b)
    (slots : LoopSlots s.program a₀ start count) (count_lt : count.index < iter.index)
    (iter_used : iter.index < a.intSlots) (iter_inside : iter.index < s.program.intSlots)
    {acceptPc topPc : Nat}
    (acceptPlace : s.program.labels[labels.accept.index]? = some (some acceptPc))
    (topPlace : s.program.labels[labels.top.index]? = some (some topPc)) {collect : Collect}
    {acc : Option ObjSlot} {n : Nat} {value : Option Value} {stop : Nat}
    (between : BetweenRounds s a₀ start count collect acc regs n value)
    (kept : regs.int iter = pos) (counted : n ≤ pos) (ahead : pos ≤ stop)
    (still : ∀ regs', stop = pos → Gathered s.program a₀ regs' collect acc value →
      s.Concludes Q acceptPc regs' stop)
    (moved : ∀ regs', stop ≠ pos → BetweenRounds s a₀ start count collect acc regs' (n + 1) value →
      s.Concludes Q topPc regs' stop) : s.Concludes Q a.code.size regs stop := by
  obtain ⟨start_lt, _, count_inside⟩ := slots
  obtain @⟨_, _, _, after, increased, placed₁, saved, placed₂, compared, placed₃, again, placed⟩ :=
    tail
  obtain ⟨after_index, _, _, after_inside⟩ := savePos_fresh saved placed₂
  rw [(emit_found increased placed₁).2.2.1] at after_index
  refine .intro fun fits further => ?_
  refine concludes_addImm increased placed₁ count_inside
    (concludes_savePos sound saved placed₂ ?_)
  have fits' := fits.setInt count (Word.wrap (regs.int count + 1))
  have afterHeld := Registers.int_setInt fits' after_inside (stop : Int)
  have iterHeld : ((regs.setInt count (Word.wrap (regs.int count + 1))).setInt after
      stop).int iter = pos := by
    rw [Registers.int_setInt_of_ne (by omega), Registers.int_setInt_of_ne (by omega), kept]
  have gathered : Gathered s.program a₀ ((regs.setInt count
      (Word.wrap (regs.int count + 1))).setInt after stop) collect acc value :=
    between.acc.of_obj (by intro; rfl)
  refine concludes_jumpIfSlot compared placed₃ after_inside iter_inside acceptPlace
    (fun taken => ?_) fun passed => ?_
  · have same : stop = pos := by
      simpa [Cond.holds, afterHeld, iterHeld, Int.ofNat_inj] using taken
    exact still _ same gathered
  · have differs : stop ≠ pos := by
      simpa [Cond.holds, afterHeld, iterHeld, Int.ofNat_inj] using passed
    have short := sound.short
    have le_size := further.le_size sound.start_le
    have fitsWord : Word.Fits ((n : Int) + 1) := by
      unfold Word.Fits Word.least Word.greatest
      omega
    refine concludes_jump again placed topPlace (moved _ differs ⟨?_, ?_, gathered⟩)
    · rw [Registers.int_setInt_of_ne (by omega), Registers.int_setInt_of_ne (by omega),
        between.start]
    · rw [Registers.int_setInt_of_ne (by omega), Registers.int_setInt fits count_inside,
        between.count, Word.wrap_of_fits fitsWord, Int.natCast_succ]

section

variable {element : RuleId} {separator : Option RuleId} {min : Nat} {max : Option Nat}
  {collect : Collect} {start count iter : IntSlot} {acc : Option ObjSlot} {labels : LoopLabels}
  (sound : s.Sound) (grammar : s.grammar = cx.grammar) (named : s.program.name = cx.name)
  (textual : collect = .text →
    cx.grammar.outputOf element = .text ∨ cx.grammar.outputOf element = .char)
  (code : RoundCode s.program cx element separator max collect count iter acc labels a b)
  (slots : LoopSlots s.program a start count)
  (ends : LoopEnds s a min start count iter collect acc labels)

include sound grammar named textual code slots ends

/-- One round: the repetition ends, or there is one more element, further on. -/
theorem concludes_round {fuel n : Nat} {value : Option Value} (counted : n ≤ pos)
    (between : BetweenRounds s a start count collect acc regs n value)
    (ways : ∀ out book, rounds s.child cx.name element separator min max collect (fuel + 1) n value
      pos Q.book out book → Q.at book out)
    (next : ∀ regs' value' stop book, pos < stop →
      BetweenRounds s a start count collect acc regs' (n + 1) value' →
      (∀ out book', rounds s.child cx.name element separator min max collect fuel (n + 1) value'
        stop book out book' → Q.at book' out) → s.Concludes (Q.at book) a.code.size regs' stop) :
    s.Concludes Q a.code.size regs pos := by
  obtain ⟨order, used, count_inside⟩ := slots
  obtain ⟨⟨acceptPc, acceptPlace, succeed⟩, ⟨donePc, donePlace, finish⟩,
    ⟨rollbackPc, rollbackPlace, undo⟩⟩ := ends
  obtain ⟨head, gathers, placed, tail⟩ := code
  obtain ⟨iter_index, ints, objs, iter_inside⟩ := head.fresh
  have ints' := gathers.extends'.intSlots
  obtain ⟨begins, placed₁, tested, placed₂, saved, placed₃, separates, placed₄, marked, placed₅⟩ :=
    head
  obtain ⟨topPlace, begun⟩ := mark_placed begins placed₁
  obtain ⟨firstPlace, still⟩ := mark_placed marked placed₅
  refine concludes_still begun (concludes_testGreatest tested placed₂ count_inside donePlace
    between.count (fun full => finish between (ways _ _ (rounds_full full))) fun notFull => ?_)
  refine .intro fun fits within => concludes_savePos sound saved placed₃ ?_
  have between₁ : BetweenRounds s a start count collect acc (regs.setInt iter pos) n value :=
    between.setInt (by omega) (by omega) pos
  have kept : (regs.setInt iter pos).int iter = pos := Registers.int_setInt fits iter_inside pos
  refine concludes_separateElement sound separates placed₄ count_inside
    (still.code ▸ firstPlace) donePlace between₁.count (fun item mid book₁ comes further => ?_)
    (fun book₁ fails => finish between₁ (ways _ _ (rounds_failed notFull (onMatch_failed fails))))
    fun fault book₁ faults => ways _ _ (rounds_faulted notFull (onMatch_faulted faults))
  have first {out : Outcome} {book₂ : Book} (second : s.child element mid book₁ out book₂) :
      onMatch (separated s.child separator (n == 0) pos) (fun _ mid => s.child element mid)
        Q.book out book₂ := onMatch_matched comes second
  refine concludes_still still (concludes_gatherElement sound grammar named gathers placed
    rollbackPlace textual (between₁.acc.mono objs.ge) ⟨?_, ?_, ?_⟩)
  · intro item stop book₂ comes' further' _
    cases gathered : gather cx.name collect value item with
    | error fault => exact ways _ _ (rounds_refused (first comes') notFull gathered)
    | ok value' =>
      intro regs₂ same₂ held
      have between₂ : BetweenRounds s a start count collect acc regs₂ n value' :=
        ⟨(same₂ start (by omega)).trans between₁.start,
          (same₂ count (by omega)).trans between₁.count, held.mono objs.le⟩
      have iter₂ := (same₂ iter (by omega)).trans kept
      have ahead := (further.trans further').le
      refine concludes_roundEnd sound tail ⟨order, used, count_inside⟩ (by omega) (by omega)
        iter_inside acceptPlace topPlace between₂ iter₂ counted ahead
        (fun regs₃ stayed held₃ => ?_) fun regs₃ moved between₃ => ?_
      · exact succeed held₃ (ways _ _ (rounds_still (first comes') notFull gathered stayed))
      · exact next regs₃ value' stop book₂ (Nat.lt_of_le_of_ne ahead moved.symm) between₃
          fun out book rest =>
            ways out book (rounds_next (first comes') notFull gathered moved rest)
  · exact fun book₂ fails => undo between₁ kept within
      (ways _ _ (rounds_failed notFull (first fails)))
  · exact fun fault book₂ faults => ways _ _ (rounds_faulted notFull (first faults))

/-- The rounds of a repetition, by induction on the bytes left. -/
theorem concludes_rounds (fuel : Nat) : ∀ {Q : Goal} {regs : Registers} {pos n : Nat}
    {value : Option Value}, s.env.text.utf8ByteSize - pos < fuel → n ≤ pos →
    BetweenRounds s a start count collect acc regs n value →
    (∀ out book, rounds s.child cx.name element separator min max collect fuel n value pos Q.book
      out book → Q.at book out) → s.Concludes Q a.code.size regs pos := by
  induction fuel with
  | zero => intro _ _ _ _ _ less; omega
  | succ fuel ih =>
    intro Q regs pos n value less counted between ways
    refine concludes_round sound grammar named textual code slots ends counted between ways
      fun regs' value' stop book moved between' ways' => ?_
    refine .intro fun _ further => ih ?_ (Nat.lt_of_le_of_lt counted moved) between' ways'
    have le_size := further.le_size sound.start_le
    omega

end

/-- The code of a repetition comes out as the rule may. -/
theorem repetition_concludes [RegexEngine] (sound : s.Sound) (grammar : s.grammar = cx.grammar)
    (named : s.program.name = cx.name) {element : RuleId} {separator : Option RuleId} {min : Nat}
    {max : Option Nat} {collect : Collect}
    (emits : Emits (repetition cx element separator min max collect) a slot b)
    (placed : Placed s.program b) (result : s.program.result = slot)
    (output : s.program.output = cx.output)
    (typed : if collect = .list ∧ cx.grammar.outputOf element = .void then cx.output = .void
      else Boxed cx.output) :
    s.Concludes (.of (Meaning.rule s.child s.env cx s.start
      (.repetition element separator min max collect)) book) a.code.size regs s.start := by
  have textual := textual_of_checked (checkRepetition_of_emits emits)
  obtain ⟨start, count, iter, acc, labels, top, bottom, rfl, opening, round, ending⟩ :=
    repetition_code emits placed
  have slots := opening.slots
  have holds : ResultSlot s.program s.program.output (acc.map .obj) := output ▸ opening.result typed
  have ends : LoopEnds s top min start count iter collect acc labels :=
    ending.ends slots round.iter_inside result holds
  exact concludes_opening sound opening fun regs' between =>
    concludes_rounds sound grammar named textual round slots ends _ (Nat.lt_succ_self _)
      (Nat.zero_le _) between fun _ _ way => way

end Lowering

end Packrat
