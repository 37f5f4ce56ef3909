import Packrat.Proofs.Cache.WellFormed
import Packrat.Proofs.Lowering.CompositeFlow

/-!
# Well-formed programs

A program is well formed if no run of it can go wrong for a reason that lies in the program itself:
everything that an instruction names is there, control stays inside the code, registers are set up
for what is gathered in them, and the result is where callers look for it. The programs that
lowering yields are well formed, whatever the object model and whoever answers for the children.

* `Program.WellFormed`: what is meant by it.

Main statement: `lowerRule_wellFormed`.
-/

namespace Packrat

/-- The program can be run for results of an output type. -/
structure Program.WellFormed (p : Program) (output : OutputType) : Prop where
  /-- Registers, labels, constants and callees that instructions name are there, and constants are
  of the kind that is needed. -/
  fits : ∀ i ∈ p.code, i.Fits p
  /-- There is a first instruction. -/
  begins : 0 < p.code.size
  /-- There is a next instruction wherever control goes on with it. -/
  continues : ∀ pc i, p.code[pc]? = some i → i.falls = true → pc + 1 < p.code.size
  /-- On all paths, a register that something is added to was set up to gather it. -/
  gathers : ∀ pc k i, p.Path pc k → p.code[pc]? = some i → i.Gathers k
  /-- The result is in the bank of the output type. -/
  result : ResultSlot p output p.result

/-- A program whose code is in order is safe from its beginning on. -/
theorem Lowering.InOrder.safe {p : Program} {output : OutputType} {rule : RuleId} {name : String}
    (inOrder : InOrder p output (.start rule name) p.result) (n : Nat) : p.Safe n 0 .initial :=
  (inOrder.flows n).safe _ ⟨fun _ => rfl, nofun, nofun⟩

/-- A program whose code is in order is well formed. -/
theorem Lowering.InOrder.wellFormed {p : Program} {output : OutputType} {rule : RuleId}
    {name : String} (inOrder : InOrder p output (.start rule name) p.result) :
    p.WellFormed output where
  fits i member := by
    obtain ⟨pc, inside, rfl⟩ := Array.mem_iff_getElem.mp member
    have here : p.code[pc]? = some p.code[pc] := Array.getElem?_eq_getElem inside
    exact ((inOrder.flows 0).laid pc _ (Nat.zero_le _) here).1
  begins := (inOrder.flows 0).inside
  continues pc i here := ((inOrder.flows 0).laid pc i (Nat.zero_le _) here).2
  gathers _ _ _ path here := path.gathers inOrder.safe here
  result := inOrder.result

/-- A type that is neither nothing nor a scalar has its results in object registers. -/
theorem ResultSlot.of_boxed {p : Program} {ty : OutputType} {dst : Option Slot}
    (result : ResultSlot p ty dst) (boxed : Machine.Boxed ty) : ∃ slot, dst = some (.obj slot) := by
  cases result with
  | void void =>
    rw [void] at boxed
    cases boxed.1
  | int scalar => cases scalar.symm.trans boxed.2
  | @obj slot => exact ⟨slot, rfl⟩

/-- What a resolver makes of a rule is its program with a matcher for every callee. -/
theorem lowered_of_resolve {l : Lowered} {answer : RuleId → Except CompileError Unit}
    {handleOf : RuleId → Handle} {made : List RuleId} {p : Program}
    (resolved : l.resolve answer handleOf = (made, .ok p)) :
    ∃ q, l.result = .ok q ∧ p = q.link fun rule => some (handleOf rule) := by
  unfold Lowered.resolve at resolved
  split at resolved
  · cases resolved
  · obtain ⟨requests, _ | q⟩ := l
    · cases resolved
    · cases resolved
      exact ⟨q, rfl, rfl⟩

/-- **Programs are well formed.** For every grammar that builds, every object model, and whatever a
resolver answers for the children: the program of a rule names nothing that is not there, never runs
past its end, and gathers only where it has set up a register. Its result is in the bank of the
inferred type, and in an object register where inference has left the type open. -/
theorem lowerRule_wellFormed [RegexEngine] {d : GrammarDraft} {g : Grammar}
    (built : d.build = .ok g) (model : ObjectModel) (answer : RuleId → Except CompileError Unit)
    (handleOf : RuleId → Handle)
    (id : RuleId) {made : List RuleId} {p : Program}
    (compiled : (lowerRule g model id).resolve answer handleOf = (made, .ok p)) :
    p.WellFormed (g.outputOf id) ∧
      (g.estimates.of id = none → ∃ slot, p.result = some (.obj slot)) := by
  have inferred := GrammarDraft.build_inferred built
  obtain ⟨q, lowered, rfl⟩ := lowered_of_resolve compiled
  have formed := (Lowering.lowerRule_inOrder inferred lowered (fun rule => some (handleOf rule))
    q.recursion fun c _ => ⟨handleOf c.rule, rfl⟩).wellFormed
  refine ⟨formed, fun unknown => formed.result.of_boxed ?_⟩
  rw [inferred.outputOf_eq, unknown]
  exact ⟨rfl, rfl⟩

section

attribute [local instance] letterEngine

/-- A text of letters with letters between them: a loop, an accumulator and three ways to fail. And
the letter as a regular expression. -/
theorem lowerRule_wellFormed_letters : lettersDraft.build = .ok lettersGrammar ∧
    (lowerRule lettersGrammar RecordModel.empty.toObjectModel ⟨1⟩).resolve (fun _ => .ok ())
      (fun _ => ⟨0⟩) = ([⟨0⟩, ⟨0⟩], .ok (lettersProgram ⟨⟨0⟩, some ⟨0⟩⟩)) ∧
    (lettersProgram ⟨⟨0⟩, some ⟨0⟩⟩).WellFormed .text ∧ patternProgram.WellFormed .text := by
  have lowered : lowerRule lettersGrammar RecordModel.empty.toObjectModel ⟨1⟩ =
      ⟨[⟨0⟩, ⟨0⟩], .ok (lettersProgram ⟨⟨0⟩, none⟩)⟩ := by cbv
  have compiled : (lowerRule lettersGrammar RecordModel.empty.toObjectModel ⟨1⟩).resolve
      (fun _ => .ok ()) (fun _ => ⟨0⟩) =
        ([⟨0⟩, ⟨0⟩], .ok (lettersProgram ⟨⟨0⟩, some ⟨0⟩⟩)) := by
    rw [resolve_answering, lowered]
    simp [Except.map, Program.link, lettersProgram]
  have pattern : (lowerRule nestedGrammar RecordModel.empty.toObjectModel ⟨0⟩).resolve
      (fun _ => .ok ()) (fun _ => ⟨0⟩) = ([], .ok patternProgram) := by
    have lowered : lowerRule nestedGrammar RecordModel.empty.toObjectModel ⟨0⟩ =
        ⟨[], .ok patternProgram⟩ := by rfl
    rw [resolve_answering, lowered]
    simp [Except.map, Program.link, patternProgram]
  exact ⟨letters_built, compiled, (lowerRule_wellFormed letters_built _ _ _ ⟨1⟩ compiled).1,
    (lowerRule_wellFormed nested_built _ _ _ ⟨0⟩ pattern).1⟩

end

end Packrat
