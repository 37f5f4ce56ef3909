import Mathlib
import Packrat.Proofs.Lowering.Finished

/-!
# Sequences of directives

The assembler takes directives in any order and with any operands: nothing makes sure that a label
is handed out before it is placed, or a register before it is used. What holds of the programs that
are finished this way holds whatever uses the assembler.

* `Directive`, `Answer`: what the assembler can be told, and what it answers.
* `Directive.obey`: the action of the assembler for a directive.
* `toldBy`, `stageAfter`: the answers to a sequence of directives, and the stage it leads to.
* `Program.filled`: a finished program, as if its callees had matchers.

Main statements: `mem_toldBy`, which finds the stage at which a directive was obeyed, and
`placed_of_finish`, by which the last stage is one of the finished program.
-/

namespace Packrat

/-! ## Directives -/

/-- What the assembler can be told to do. -/
inductive Directive where
  /-- Hand out an integer register. -/
  | intSlot
  /-- Hand out an object register. -/
  | objSlot
  /-- Hand out a register for values of a type. -/
  | slotFor (ty : OutputType)
  /-- Hand out a label. -/
  | newLabel
  /-- Place a label. -/
  | mark (label : Label)
  /-- Number a value constant. -/
  | valueConst (v : Value)
  /-- Number a regular expression. -/
  | regexConst (r : Regex)
  /-- Number a callee. -/
  | callee (rule : RuleId) (handle : Option Handle)
  /-- Append an instruction. -/
  | emit (i : Instruction)
  /-- Append a jump. -/
  | jump (target : Label)
  /-- Append a comparison with a number. -/
  | jumpIf (cond : Cond) (a : IntSlot) (b : Int) (target : Label)
  /-- Append a comparison of two registers. -/
  | jumpIfSlot (cond : Cond) (a b : IntSlot) (target : Label)
  /-- Append the end of a run. -/
  | ret (success : Bool)
  /-- Keep the position in a fresh register. -/
  | savePos
  /-- Append the return to a kept position. -/
  | restorePos (src : IntSlot)
  /-- Append the load of a value constant. -/
  | loadValue (dst : ObjSlot) (v : Value)
  /-- Append a call. -/
  | call (rule : RuleId) (handle : Option Handle) (name : Option String) (dst : Option Slot)
      (onFail : Label)
  /-- Append an operation on the text. -/
  | invoke (native : Native) (args : List Slot) (dst : Option Slot) (onFail : Label)

/-- What the assembler answers. -/
inductive Answer where
  /-- Nothing. -/
  | nothing
  /-- A register. -/
  | slot (slot : Slot)
  /-- A label. -/
  | label (label : Label)
  /-- An entry of the constant table. -/
  | const (index : ConstIndex)
  /-- An entry of the callee table. -/
  | callee (index : CalleeIndex)

namespace Directive

/-- The action of the assembler for a directive. -/
def obey : Directive → Assemble Answer
  | .intSlot => return .slot (.int (← Assemble.intSlot))
  | .objSlot => return .slot (.obj (← Assemble.objSlot))
  | .slotFor ty => return (← Assemble.slotFor ty).elim .nothing .slot
  | .newLabel => return .label (← Assemble.newLabel)
  | .mark label => do
    Assemble.mark label
    return .nothing
  | .valueConst v => return .const (← Assemble.valueConst v)
  | .regexConst r => return .const (← Assemble.regexConst r)
  | .callee rule handle => return .callee (← Assemble.callee rule handle)
  | .emit i => do
    Assemble.emit i
    return .nothing
  | .jump target => do
    Assemble.jump target
    return .nothing
  | .jumpIf cond a b target => do
    Assemble.jumpIf cond a b target
    return .nothing
  | .jumpIfSlot cond a b target => do
    Assemble.jumpIfSlot cond a b target
    return .nothing
  | .ret success => do
    Assemble.ret success
    return .nothing
  | .savePos => return .slot (.int (← Assemble.savePos))
  | .restorePos src => do
    Assemble.restorePos src
    return .nothing
  | .loadValue dst v => do
    Assemble.loadValue dst v
    return .nothing
  | .call rule handle name dst onFail => do
    Assemble.call rule handle name dst onFail
    return .nothing
  | .invoke native args dst onFail => do
    Assemble.invoke native args dst onFail
    return .nothing

end Directive

/-- Every directive leads to a later stage. -/
instance {d : Directive} : Grows d.obey := by
  cases d <;> (unfold Directive.obey; infer_instance)

/-! ## Sequences -/

/-- Obey directives one after another. Each is returned with its answer. -/
def obeyAll : List Directive → Assemble (List (Directive × Answer))
  | [] => return []
  | d :: rest => do
    let answer ← d.obey
    let told ← obeyAll rest
    return (d, answer) :: told

section

variable (rule : RuleId) (name : String)

/-- The answers to a sequence of directives about the program of a rule. -/
def toldBy (ds : List Directive) : List (Directive × Answer) :=
  (obeyAll ds (.start rule name)).1

/-- The stage to which a sequence of directives about the program of a rule leads. -/
def stageAfter (ds : List Directive) : Assembler :=
  (obeyAll ds (.start rule name)).2

end

variable {rule : RuleId} {name : String} {ds : List Directive} {d : Directive}

/-- Obeying two rows of directives is obeying one after the other. -/
theorem obeyAll_append (es : List Directive) (a : Assembler) : obeyAll (ds ++ es) a =
    ((obeyAll ds a).1 ++ (obeyAll es (obeyAll ds a).2).1, (obeyAll es (obeyAll ds a).2).2) := by
  induction ds generalizing a with
  | nil => rfl
  | cons d rest ih =>
    change ((d, (d.obey a).1) :: (obeyAll (rest ++ es) (d.obey a).2).1,
      (obeyAll (rest ++ es) (d.obey a).2).2) = _
    rw [ih]
    rfl

/-- The stage after two rows is that of the second one after the first. -/
theorem stageAfter_append (es : List Directive) :
    stageAfter rule name (ds ++ es) = (obeyAll es (stageAfter rule name ds)).2 := by
  rw [stageAfter, obeyAll_append]
  rfl

/-- The last directive is obeyed at the stage to which the ones before it lead. -/
theorem stageAfter_snoc :
    stageAfter rule name (ds ++ [d]) = (d.obey (stageAfter rule name ds)).2 :=
  stageAfter_append [d]

/-- The last directive is told what its own stage answers. -/
theorem toldBy_snoc : toldBy rule name (ds ++ [d]) =
    toldBy rule name ds ++ [(d, (d.obey (stageAfter rule name ds)).1)] := by
  rw [toldBy, obeyAll_append]
  rfl

/-- Obeying directives only adds to an assembler. -/
theorem extends_obeyAll (es : List Directive) (a : Assembler) : a.Extends (obeyAll es a).2 := by
  induction es generalizing a with
  | nil => exact .refl a
  | cons d rest ih =>
    exact Assembler.Extends.trans (Leads.leads (R := later) () a) (ih (d.obey a).2)

/-- More directives lead to a later stage. -/
theorem stageAfter_extends (es : List Directive) :
    (stageAfter rule name ds).Extends (stageAfter rule name (ds ++ es)) := by
  rw [stageAfter_append]
  exact extends_obeyAll es _

/-- An answer was given at some stage. -/
theorem mem_toldBy {answer : Answer} (told : (d, answer) ∈ toldBy rule name ds) :
    ∃ before after, ds = before ++ d :: after ∧
      d.obey (stageAfter rule name before) = (answer, stageAfter rule name (before ++ [d])) := by
  induction ds using List.reverseRecOn with
  | nil => cases told
  | append_singleton ds last ih =>
    rw [toldBy_snoc, List.mem_append, List.mem_singleton] at told
    rcases told with told | told
    · obtain ⟨before, after, rfl, obeyed⟩ := ih told
      exact ⟨before, after ++ [last], by rw [List.append_assoc]; rfl, obeyed⟩
    · cases told
      exact ⟨ds, [], rfl, Prod.ext rfl stageAfter_snoc.symm⟩

/-- A directive between others leads to a stage before the last one. -/
theorem extends_between {before after : List Directive} :
    (stageAfter rule name (before ++ [d])).Extends
      (stageAfter rule name (before ++ d :: after)) := by
  have same : before ++ d :: after = (before ++ [d]) ++ after := by rw [List.append_assoc]; rfl
  rw [same]
  exact stageAfter_extends after

/-! ## Finished programs -/

/-- The program as if its callees had matchers. -/
def Program.filled (p : Program) : Program := p.link fun _ => some ⟨0⟩

variable {output : OutputType} {result : Option Slot} {concrete traced : Bool} {p : Program}

/-- A program without a fault has an entry of its own for each rule in the table of callees. -/
theorem stageAfter_keyed (sound : (stageAfter rule name ds).fault = none) :
    (stageAfter rule name ds).Keyed := by
  refine (extends_obeyAll ds (.start rule name)).keyed sound fun rule i known => ?_
  simp [Assembler.start] at known

/-- The directives of a program that is finished lead to stages of it. -/
theorem placed_of_finish
    (finished : (stageAfter rule name ds).finish output result concrete traced = .ok p) :
    Placed p.filled (stageAfter rule name ds) := by
  obtain ⟨sound, rfl⟩ := Lowering.finish_eq finished
  refine ⟨rfl, fun _ _ there => there, fun _ _ there => there, Nat.le_refl _, Nat.le_refl _,
    fun _ _ there => there, fun rule i known => ⟨⟨0⟩, ?_⟩, sound⟩
  obtain ⟨c, there, rfl⟩ := stageAfter_keyed sound rule i known
  simp only [Program.filled, Program.link, Array.getElem?_map, there, Option.map_some]

/-- A directive of a program that is finished leads to a stage of it. -/
theorem placed_between {before after : List Directive}
    (finished : (stageAfter rule name (before ++ d :: after)).finish output result concrete traced =
      .ok p) : Placed p.filled (stageAfter rule name (before ++ [d])) :=
  (placed_of_finish finished).of_extends extends_between

end Packrat
