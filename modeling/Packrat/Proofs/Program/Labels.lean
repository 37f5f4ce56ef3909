import Packrat.Proofs.Machine.Blame
import Packrat.Proofs.Program.Directive

/-!
# Labels of finished programs

A program is finished only if its labels are in order. The check looks at the labels that were
handed out, and at those only: such a label, where an instruction may jump to it, has the place at
which it was marked, inside the code. An instruction may also name a label that never was handed
out. The program is finished all the same, and the label has no place.

* `emitted`: how many instructions a sequence of directives appends.
* `HandedOut`, `MarkedAt`: what a sequence of directives does with a label.

Main statements: `finish_targets`, and `finish_targets_dangling` for a label that has no place.
-/

namespace Packrat

open Assemble

/-! ## Directives and the code -/

/-- How many instructions a directive appends. -/
def Directive.size : Directive → Nat
  | .intSlot | .objSlot | .slotFor _ | .newLabel | .mark _ | .valueConst _ | .regexConst _
  | .callee _ _ => 0
  | _ => 1

/-- How many instructions a sequence of directives appends. -/
def emitted (ds : List Directive) : Nat := (ds.map Directive.size).sum

/-- A label is handed out by a sequence of directives about the program of a rule. -/
def HandedOut (rule : RuleId) (name : String) (ds : List Directive) (label : Label) : Prop :=
  (.newLabel, .label label) ∈ toldBy rule name ds

/-- A label is marked behind some number of instructions. -/
def MarkedAt (ds : List Directive) (label : Label) (place : Nat) : Prop :=
  ∃ before after, ds = before ++ .mark label :: after ∧ place = emitted before

/-- There are the same code and the same labels at both stages. -/
structure Assembler.Quiet (a b : Assembler) : Prop where
  code : b.code = a.code
  labels : b.labels = a.labels

namespace Assembler

/-- Giving out a number leaves code and labels alone. -/
theorem quiet_number (a : Assembler) (i : Nat) (table : String) :
    a.Quiet (a.number i table).2 := by
  unfold number
  split <;> exact ⟨rfl, rfl⟩

/-- Giving out an integer register leaves them alone. -/
theorem quiet_intSlot (a : Assembler) : a.Quiet (intSlot a).2 :=
  ⟨(quiet_number a _ _).code, (quiet_number a _ _).labels⟩

/-- Giving out an object register leaves them alone. -/
theorem quiet_objSlot (a : Assembler) : a.Quiet (objSlot a).2 :=
  ⟨(quiet_number a _ _).code, (quiet_number a _ _).labels⟩

/-- Giving out a register for a type leaves them alone. -/
theorem quiet_slotFor (ty : OutputType) (a : Assembler) : a.Quiet (slotFor ty a).2 := by
  unfold slotFor
  split
  · exact ⟨rfl, rfl⟩
  · split
    · exact quiet_intSlot a
    · exact quiet_objSlot a

/-- Pooling a value leaves them alone. -/
theorem quiet_valueConst (v : Value) (a : Assembler) : a.Quiet (valueConst v a).2 := by
  simp only [valueConst, modifyGet, MonadStateOf.modifyGet, StateT.modifyGet]
  split
  · exact quiet_number a _ _
  · exact ⟨(quiet_number a _ _).code, (quiet_number a _ _).labels⟩

/-- Pooling a pattern leaves them alone. -/
theorem quiet_regexConst (r : Regex) (a : Assembler) : a.Quiet (regexConst r a).2 :=
  ⟨(quiet_number a _ _).code, (quiet_number a _ _).labels⟩

/-- Registering a callee leaves them alone. -/
theorem quiet_callee (rule : RuleId) (handle : Option Handle) (a : Assembler) :
    a.Quiet (callee rule handle a).2 := by
  simp only [callee, modifyGet, MonadStateOf.modifyGet, StateT.modifyGet]
  split
  · exact ⟨rfl, rfl⟩
  · exact ⟨(quiet_number a _ _).code, (quiet_number a _ _).labels⟩

end Assembler

open Assembler

/-- A directive that appends no instruction leaves the code as it is, the others append one. -/
theorem size_obey (d : Directive) (a : Assembler) :
    (d.obey a).2.code.size = a.code.size + d.size := by
  -- What a quiet action leaves is followed by an instruction.
  have push {b : Assembler} (quiet : a.Quiet b) (i : Instruction) :
      (b.code.push i).size = a.code.size + 1 := by
    rw [quiet.code, Array.size_push]
  cases d with
  | intSlot => exact congrArg Array.size (quiet_intSlot a).code
  | objSlot => exact congrArg Array.size (quiet_objSlot a).code
  | slotFor ty => exact congrArg Array.size (quiet_slotFor ty a).code
  | newLabel => rfl
  | mark label =>
    change (mark label a).2.code.size = a.code.size
    rw [mark_eq]
    dsimp only
    split <;> rfl
  | valueConst v => exact congrArg Array.size (quiet_valueConst v a).code
  | regexConst r => exact congrArg Array.size (quiet_regexConst r a).code
  | callee rule handle => exact congrArg Array.size (quiet_callee rule handle a).code
  | savePos => exact push (quiet_intSlot a) _
  | loadValue dst v => exact push (quiet_valueConst v a) _
  | call rule handle name dst onFail => exact push (quiet_callee rule handle a) _
  | _ => exact push ⟨rfl, rfl⟩ _

/-- Labels are changed by handing them out and by placing them. -/
theorem labels_obey (d : Directive) (a : Assembler) : d = .newLabel ∨ (∃ label, d = .mark label) ∨
    (d ≠ .newLabel ∧ ∀ label, d ≠ .mark label) ∧ (d.obey a).2.labels = a.labels := by
  by_cases handing : d = .newLabel
  · exact .inl handing
  by_cases marking : ∃ label, d = .mark label
  · exact .inr (.inl marking)
  refine .inr (.inr ⟨⟨handing, not_exists.mp marking⟩, ?_⟩)
  cases d with
  | newLabel => exact absurd rfl handing
  | mark label => exact absurd ⟨label, rfl⟩ marking
  | intSlot => exact (quiet_intSlot a).labels
  | objSlot => exact (quiet_objSlot a).labels
  | slotFor ty => exact (quiet_slotFor ty a).labels
  | valueConst v => exact (quiet_valueConst v a).labels
  | regexConst r => exact (quiet_regexConst r a).labels
  | callee rule handle => exact (quiet_callee rule handle a).labels
  | savePos => exact (quiet_intSlot a).labels
  | loadValue dst v => exact (quiet_valueConst v a).labels
  | call rule handle name dst onFail => exact (quiet_callee rule handle a).labels
  | _ => rfl

section

variable {rule : RuleId} {name : String} {ds : List Directive} {label : Label} {place : Nat}

/-- As many instructions are there as were appended. -/
theorem size_stageAfter : (stageAfter rule name ds).code.size = emitted ds := by
  induction ds using List.reverseRecOn with
  | nil => rfl
  | append_singleton ds d ih => simp [stageAfter_snoc, size_obey, ih, emitted]

/-! ## Labels and their places -/

/-- The labels handed out are those with an entry. -/
theorem handedOut_iff :
    HandedOut rule name ds label ↔ label.index < (stageAfter rule name ds).labels.size := by
  induction ds using List.reverseRecOn with
  | nil => exact iff_of_false nofun (Nat.not_lt_zero _)
  | append_singleton ds d ih =>
    rw [HandedOut, toldBy_snoc, List.mem_append, List.mem_singleton, stageAfter_snoc]
    change HandedOut rule name ds label ∨ _ ↔ _
    rw [ih]
    rcases labels_obey d (stageAfter rule name ds) with rfl | ⟨other, rfl⟩ | ⟨⟨differs, -⟩, same⟩
    · change _ < _ ∨ (Directive.newLabel, Answer.label label) = (Directive.newLabel,
        Answer.label ⟨(stageAfter rule name ds).labels.size⟩) ↔
        label.index < ((stageAfter rule name ds).labels.push none).size
      rw [Array.size_push, Nat.lt_succ_iff_lt_or_eq]
      refine or_congr_right ⟨fun same => ?_, fun same => by rw [← same]⟩
      cases same
      rfl
    · change _ < _ ∨ _ ↔ label.index < (mark other (stageAfter rule name ds)).2.labels.size
      rw [mark_eq]
      dsimp only
      split
      · simp
      · simp [blame]
    · rw [same]
      exact or_iff_left fun told => differs (congrArg Prod.fst told).symm

/-- A label is marked somewhere if it was before or is marked by the last directive. -/
theorem markedAt_snoc {d : Directive} : MarkedAt (ds ++ [d]) label place ↔
    MarkedAt ds label place ∨ d = .mark label ∧ place = emitted ds := by
  constructor
  · rintro ⟨before, after, same, rfl⟩
    rcases List.eq_nil_or_concat after with rfl | ⟨after, last, rfl⟩
    · obtain ⟨rfl, rfl⟩ := List.append_singleton_inj.mp same
      exact .inr ⟨rfl, rfl⟩
    · rw [List.concat_eq_append, ← List.cons_append, ← List.append_assoc] at same
      obtain ⟨rfl, rfl⟩ := List.append_singleton_inj.mp same
      exact .inl ⟨before, after, rfl, rfl⟩
  · rintro (⟨before, after, rfl, rfl⟩ | ⟨rfl, rfl⟩)
    · exact ⟨before, after ++ [d], by rw [List.append_assoc]; rfl, rfl⟩
    · exact ⟨ds, [], rfl, rfl⟩

/-- The place of a label is the one at which it was marked, as long as there is no fault. -/
theorem placed_iff_markedAt (sound : (stageAfter rule name ds).fault = none) :
    (stageAfter rule name ds).labels[label.index]? = some (some place) ↔
      MarkedAt ds label place := by
  induction ds using List.reverseRecOn with
  | nil =>
    refine iff_of_false nofun ?_
    rintro ⟨before, after, same, -⟩
    cases before <;> cases same
  | append_singleton ds d ih =>
    have ih := ih ((stageAfter_extends [d]).fault sound)
    rw [stageAfter_snoc] at sound ⊢
    rw [markedAt_snoc, ← ih, ← @size_stageAfter rule name ds]
    generalize stageAfter rule name ds = a at sound ⊢
    rcases labels_obey d a with rfl | ⟨other, rfl⟩ | ⟨⟨-, differs⟩, same⟩
    · change (a.labels.push none)[label.index]? = _ ↔ _
      rw [Array.getElem?_push]
      split
      case isTrue last => simp [last]
      case isFalse => simp
    · change (mark other a).2.fault = none at sound
      change (mark other a).2.labels[label.index]? = _ ↔ _
      rw [mark_eq] at sound ⊢
      cases entry : a.labels[other.index]? with
      | none =>
        rw [entry] at sound
        exact absurd sound (blame_fault a _)
      | some entry' =>
        rw [entry] at sound
        cases entry' with
        | some pc => exact absurd sound (blame_fault a _)
        | none =>
          -- A label that is marked now had no place before.
          by_cases here : other = label
          · subst here
            have inside := (Array.getElem?_eq_some_iff.mp entry).1
            dsimp only
            rw [Array.getElem?_setIfInBounds_self_of_lt inside, entry]
            simp [eq_comm]
          · have differs : other.index ≠ label.index := fun same => here (congrArg Label.mk same)
            simp [differs, here]
    · rw [same]
      exact (or_iff_left fun marked => differs label marked.1).symm

/-! ## What the check looks at -/

/-- A label that an instruction may jump to is noted, and what is noted stays so. -/
theorem noted_of_mem {code : List Instruction} {i : Instruction} (target : i.target? = some label)
    {used : Array Bool} (known : label.index < used.size)
    (there : i ∈ code ∨ used[label.index]? = some true) :
    (code.foldl (fun used i => match i.target? with
      | some label => used.setIfInBounds label.index true
      | none => used) used)[label.index]? = some true := by
  induction code generalizing used with
  | nil => exact there.resolve_left nofun
  | cons j rest ih =>
    rw [List.foldl_cons]
    cases jumps : j.target? with
    | none =>
      refine ih known (there.imp_left fun member => ?_)
      rcases List.mem_cons.mp member with rfl | member
      · rw [target] at jumps
        cases jumps
      · exact member
    | some other =>
      refine ih (by simpa using known) ?_
      dsimp only
      rw [Array.getElem?_setIfInBounds]
      split
      case isTrue same => exact .inr (if_pos (same ▸ known))
      case isFalse differs =>
        refine there.imp_left fun member => ?_
        rcases List.mem_cons.mp member with rfl | member
        · rw [target] at jumps
          cases jumps
          exact absurd rfl differs
        · exact member

/-- A label with an entry that an instruction may jump to is used. -/
theorem usedLabels_of_mem {a : Assembler} {i : Instruction} (member : i ∈ a.code)
    (target : i.target? = some label) (known : label.index < a.labels.size) :
    a.usedLabels.getD label.index false = true := by
  have there : a.usedLabels[label.index]? = some true := by
    rw [usedLabels, ← Array.foldl_toList]
    refine noted_of_mem target ?_ (.inl (Array.mem_toList_iff.mpr member))
    rwa [Array.size_replicate]
  rw [Array.getD_eq_getD_getElem?, there, Option.getD_some]

/-- Labels in order have their places inside the code, and those without a place are not used. -/
theorem inOrder_of_checked {a : Assembler} {used : Array Bool} {entries : List (Option Nat)}
    {i k : Nat} (ok : a.checkLabels used i entries = .ok ()) :
    (∀ pc, entries[k]? = some (some pc) → pc < a.code.size) ∧
      (entries[k]? = some none → used.getD (i + k) false = false) := by
  induction entries generalizing i k with
  | nil => exact ⟨nofun, nofun⟩
  | cons first rest ih =>
    -- Behind the first label the numbers are greater by one.
    have behind {k : Nat} (ok : a.checkLabels used (i + 1) rest = .ok ()) := ih (k := k) ok
    simp only [Nat.add_right_comm i 1] at behind
    cases first with
    | some pc =>
      rw [checkLabels] at ok
      split at ok
      case isFalse => cases ok
      case isTrue inside =>
        cases k with
        | zero =>
          refine ⟨fun _ there => ?_, fun there => ?_⟩
          · cases there
            exact inside
          · cases there
        | succ k => exact behind ok
    | none =>
      rw [checkLabels] at ok
      split at ok
      case isTrue => cases ok
      case isFalse unused =>
        cases k with
        | zero =>
          refine ⟨fun _ there => ?_, fun _ => Bool.eq_false_iff.mpr unused⟩
          cases there
        | succ k => exact behind ok

variable {output : OutputType} {result : Option Slot} {concrete traced : Bool} {p : Program}

/-- A label that is handed out and may be jumped to has the one place at which it was marked. -/
theorem target_of_handedOut
    (finished : (stageAfter rule name ds).finish output result concrete traced = .ok p)
    {i : Instruction} (member : i ∈ p.code) (target : i.target? = some label)
    (handedOut : HandedOut rule name ds label) :
    ∃ pc, p.target label = .ok pc ∧ pc < p.code.size ∧
      ∀ place, MarkedAt ds label place ↔ place = pc := by
  have labels := (Lowering.finishes_of_finish finished).labels
  obtain ⟨sound, rfl⟩ := Lowering.finish_eq finished
  have known := handedOut_iff.mp handedOut
  obtain ⟨inside, unused⟩ := inOrder_of_checked labels (k := label.index)
  rw [Array.getElem?_toList] at inside unused
  have entry := Array.getElem?_eq_getElem known
  generalize (stageAfter rule name ds).labels[label.index] = place at entry
  cases place with
  | none =>
    have unused := unused entry
    rw [Nat.zero_add, usedLabels_of_mem member target known] at unused
    cases unused
  | some pc =>
    refine ⟨pc, by simp [Program.target, entry], inside pc entry, fun place => ?_⟩
    rw [← placed_iff_markedAt sound, entry, Option.some_inj, Option.some_inj, eq_comm]

/-- A label that never was handed out has no place. -/
theorem target_of_not_handedOut
    (finished : (stageAfter rule name ds).finish output result concrete traced = .ok p)
    (unknown : ¬HandedOut rule name ds label) :
    p.target label = .error (.unmarkedLabel p.name label.index) := by
  obtain ⟨sound, rfl⟩ := Lowering.finish_eq finished
  rw [handedOut_iff, Nat.not_lt] at unknown
  simp [Program.target, Array.getElem?_eq_none unknown]

/-! ## Jumps of finished programs -/

/-- A finished program has no dangling jump, as far as its labels were handed out: whatever the
directives were, a label that was handed out and that an instruction may go to has as its place the
one at which it was marked, which is inside the code. A label that was not handed out has none, and
nothing else makes a run of the program fault for want of a place, apart from its calls. -/
theorem finish_targets
    (finished : (stageAfter rule name ds).finish output result concrete traced = .ok p) :
    (∀ i ∈ p.code, ∀ label, i.target? = some label →
      (HandedOut rule name ds label → ∃ pc, p.target label = .ok pc ∧ pc < p.code.size ∧
        ∀ place, MarkedAt ds label place ↔ place = pc) ∧
      (¬HandedOut rule name ds label →
        p.target label = .error (.unmarkedLabel p.name label.index))) ∧
    ∀ (env : Environment) (calls : Machine.CallRelation) (state state' : ParseState)
      (program : String) (l : Nat),
      Machine.Runs env calls p (.at 0 (.fresh p) state)
        (.error (.unmarkedLabel program l), state') →
      (∃ h slot s s', calls h slot s (.error (.unmarkedLabel program l), s')) ∨
      program = p.name ∧ ∃ i ∈ p.code, i.target? = some ⟨l⟩ ∧ ¬HandedOut rule name ds ⟨l⟩ := by
  refine ⟨fun i member label target => ⟨target_of_handedOut finished member target,
    target_of_not_handedOut finished⟩, fun env calls state state' program l runs => ?_⟩
  refine (Machine.blamed_of_runs runs trivial).imp_right ?_
  rintro ⟨i, member, label, target, failed⟩
  have unknown : ¬HandedOut rule name ds label := fun handedOut => by
    obtain ⟨pc, found, -⟩ := target_of_handedOut finished member target handedOut
    cases found.symm.trans failed
  rw [target_of_not_handedOut finished unknown] at failed
  cases failed
  exact ⟨rfl, i, member, target, unknown⟩

/-- A jump to a label that is placed behind it, and one to a label that was not handed out. -/
def danglingJump : List Directive :=
  [.newLabel, .jump ⟨0⟩, .mark ⟨0⟩, .jump ⟨9⟩, .ret true]

/-- A program with a jump to a label that was not handed out is finished, and a run of it faults. -/
theorem finish_targets_dangling : ∃ p : Program,
    (stageAfter ⟨0⟩ "P" danglingJump).finish .void none true true = .ok p ∧
      (∃ pc, p.target ⟨0⟩ = .ok pc ∧ pc < p.code.size ∧ MarkedAt danglingJump ⟨0⟩ pc) ∧
      p.target ⟨9⟩ = .error (.unmarkedLabel "P" 9) ∧
      ∀ env state, ∃ state', Machine.Runs env (fun _ _ _ _ => False) p (.at 0 (.fresh p) state)
        (.error (.unmarkedLabel "P" 9), state') := by
  have finished : (stageAfter ⟨0⟩ "P" danglingJump).finish .void none true true =
      .ok ⟨"P", ⟨0⟩, #[.jump ⟨0⟩, .jump ⟨9⟩, .ret true], #[some 1], 0, 0, #[], #[], .void, none,
        true, true, .none⟩ := rfl
  have targets := (finish_targets finished).1
  refine ⟨_, finished, ?_, ?_, fun env state => ⟨state, .step (.step .done)⟩⟩
  · obtain ⟨pc, found, inside, marked⟩ := (targets (.jump ⟨0⟩) (by simp) ⟨0⟩ rfl).1 (by
      rw [handedOut_iff]
      decide)
    exact ⟨pc, found, inside, (marked pc).mpr rfl⟩
  · exact (targets (.jump ⟨9⟩) (by simp) ⟨9⟩ rfl).2 (by
      rw [handedOut_iff]
      decide)

end

end Packrat
