import Packrat.Lowering.Rule

/-!
# Growth of programs under construction

Every action of the assembler adds to the program: what is placed stays where it is, and a fault
that is remembered stays. So what holds of the finished program holds of every stage before it.

* `Assembler.Extends`: one stage of a program comes before another one.
* `StageRelation`, `LoweringRelation`: relations of stages that actions keep to.
* `Leads`, `LowerLeads`: actions that lead from a stage to one that is related to it.
* `Grows`, `LowerGrows`: actions that lead from a stage to one after it.
* `Placed`: a stage of the construction of a program, as seen from the program.
* `Emits`: what a lowering action without an error makes of a stage.

Main statements: `Placed.of_extends`, and `assemble_split` and `Emits.split`, which take a sequence
of actions apart into stages of one program.
-/

namespace Packrat

/-! ## Stages -/

namespace Assembler

/-- The entry of a rule in the callee table is one of that rule. -/
def Keyed (a : Assembler) : Prop :=
  ∀ (rule : RuleId) (i : CalleeIndex), a.calleeOf[rule]? = some i →
    ∃ c : Callee, a.callees[i.index]? = some c ∧ c.rule = rule

/-- What is there at one stage is still there at a later one. -/
structure Extends (a b : Assembler) : Prop where
  name : b.name = a.name
  rule : b.rule = a.rule
  size : a.code.size ≤ b.code.size
  code : ∀ (pc : Nat) (i : Instruction), a.code[pc]? = some i → b.code[pc]? = some i
  labels : ∀ (l pc : Nat), a.labels[l]? = some (some pc) → b.labels[l]? = some (some pc)
  intSlots : a.intSlots ≤ b.intSlots
  objSlots : a.objSlots ≤ b.objSlots
  consts : ∀ (i : Nat) (c : Constant), a.consts[i]? = some c → b.consts[i]? = some c
  calleeOf : ∀ (rule : RuleId) (i : CalleeIndex), a.calleeOf[rule]? = some i →
    b.calleeOf[rule]? = some i
  keyed : b.fault = none → a.Keyed → b.Keyed
  fault : b.fault = none → a.fault = none

/-- A stage comes before itself. -/
theorem Extends.refl (a : Assembler) : Extends a a where
  name := rfl
  rule := rfl
  size := Nat.le_refl _
  code := fun _ _ h => h
  labels := fun _ _ h => h
  intSlots := Nat.le_refl _
  objSlots := Nat.le_refl _
  consts := fun _ _ h => h
  calleeOf := fun _ _ h => h
  keyed := fun _ h => h
  fault := fun h => h

/-- What comes before an earlier stage comes before the later one. -/
theorem Extends.trans {a b c : Assembler} (first : Extends a b) (second : Extends b c) :
    Extends a c where
  name := second.name.trans first.name
  rule := second.rule.trans first.rule
  size := Nat.le_trans first.size second.size
  code := fun _ _ h => second.code _ _ (first.code _ _ h)
  labels := fun _ _ h => second.labels _ _ (first.labels _ _ h)
  intSlots := Nat.le_trans first.intSlots second.intSlots
  objSlots := Nat.le_trans first.objSlots second.objSlots
  consts := fun _ _ h => second.consts _ _ (first.consts _ _ h)
  calleeOf := fun _ _ h => second.calleeOf _ _ (first.calleeOf _ _ h)
  keyed := fun sound h => second.keyed sound (first.keyed (second.fault sound) h)
  fault := fun h => first.fault (second.fault h)

/-- A stage without a fault blames nothing. -/
theorem blame_fault (a : Assembler) (fault : EngineFault) : (a.blame fault).fault ≠ none := by
  unfold blame
  cases a.fault <;> simp

/-- Blaming a table changes nothing else. -/
theorem extends_blame (a : Assembler) (fault : EngineFault) : Extends a (a.blame fault) where
  name := rfl
  rule := rfl
  size := Nat.le_refl _
  code := fun _ _ h => h
  labels := fun _ _ h => h
  intSlots := Nat.le_refl _
  objSlots := Nat.le_refl _
  consts := fun _ _ h => h
  calleeOf := fun _ _ h => h
  keyed := fun sound => absurd sound (blame_fault a fault)
  fault := fun sound => absurd sound (blame_fault a fault)

/-- Numbering an entry blames the table at most. -/
theorem extends_number (a : Assembler) (i : Nat) (table : String) :
    Extends a (a.number i table).2 := by
  unfold number
  split
  · exact .refl a
  · exact extends_blame a _

/-- Without a fault, an entry has the number that was asked for. -/
theorem number_eq {a a' : Assembler} {i j : Nat} {table : String}
    (numbered : a.number i table = (j, a')) (sound : a'.fault = none) : i = j ∧ a = a' := by
  unfold number at numbered
  split at numbered
  case isTrue =>
    cases numbered
    exact ⟨rfl, rfl⟩
  case isFalse =>
    cases numbered
    exact absurd sound (blame_fault a _)

end Assembler

open Assembler

/-! ## Actions that keep to a relation of stages -/

/-- A relation of stages that every basic action other than a call keeps to. -/
structure StageRelation where
  /-- The one stage is related to the other one. -/
  Rel : Assembler → Assembler → Prop
  refl : ∀ a, Rel a a
  trans : ∀ a b c, Rel a b → Rel b c → Rel a c
  intSlot : ∀ a, Rel a (Assemble.intSlot a).2
  objSlot : ∀ a, Rel a (Assemble.objSlot a).2
  newLabel : ∀ a, Rel a (Assemble.newLabel a).2
  mark : ∀ label a, Rel a (Assemble.mark label a).2
  valueConst : ∀ v a, Rel a (Assemble.valueConst v a).2
  regexConst : ∀ r a, Rel a (Assemble.regexConst r a).2
  emit : ∀ i a, Rel a (Assemble.emit i a).2

/-- The action leads from a stage to one that is related to it. What the actions before it in a
block returned is `seen`. It matters to the search for instances only, which counts an instance
twice wherever a variable that is bound no longer occurs in its type. -/
class Leads (R : StageRelation) {γ : Type} (seen : γ) {α : Type} (m : Assemble α) : Prop where
  leads : ∀ a, R.Rel a (m a).2

section

variable {α β γ : Type} {seen : γ} {R : StageRelation}

/-- What is known of an action by itself is known of it in a block. -/
instance (priority := low) {m : Assemble α} [Leads R () m] : Leads R seen m :=
  ⟨Leads.leads () (m := m)⟩

instance {x : α} : Leads R seen (pure x : Assemble α) := ⟨R.refl⟩

instance {m : Assemble α} {f : α → Assemble β} [Leads R seen m] [∀ x, Leads R (seen, x) (f x)] :
    Leads R seen (m >>= f) where
  leads a := R.trans _ _ _ (Leads.leads seen (m := m) a)
    (Leads.leads (seen, (m a).1) (m := f (m a).1) (m a).2)

instance {c : Prop} [Decidable c] {m n : Assemble α} [Leads R seen m] [Leads R seen n] :
    Leads R seen (if c then m else n) := by
  split <;> infer_instance

end

/-- An element that is there stays when one is added. -/
theorem getElem?_push_of_some {α : Type} {xs : Array α} {x : α} {i : Nat} {y : α}
    (h : xs[i]? = some y) : (xs.push x)[i]? = some y := by
  have inside : i < xs.size := (Array.getElem?_eq_some_iff.mp h).1
  rw [Array.getElem?_push_lt inside]
  exact (Array.getElem?_eq_getElem inside).symm.trans h

namespace Assemble

/-- Adding an entry for a rule that has none keeps the entries of other rules. -/
theorem calleeOf_insert {a : Assembler} {rule other : RuleId} {i j : CalleeIndex}
    (unknown : a.calleeOf[rule]? = none) (h : a.calleeOf[other]? = some j) :
    (a.calleeOf.insert rule i)[other]? = some j := by
  rw [Std.HashMap.getElem?_insert]
  split
  case isTrue same =>
    rw [← eq_of_beq same, unknown] at h
    cases h
  case isFalse => exact h

/-- An entry for a rule that has none, if it is numbered by its place. -/
theorem keyed_push {a : Assembler} (h : a.Keyed) (rule : RuleId) (handle : Option Handle) :
    Keyed { a with
      callees := a.callees.push ⟨rule, handle⟩
      calleeOf := a.calleeOf.insert rule ⟨a.callees.size⟩ } := by
  intro other i found
  rw [Std.HashMap.getElem?_insert] at found
  split at found
  case isTrue same =>
    cases found
    exact ⟨⟨rule, handle⟩, Array.getElem?_push_size, eq_of_beq same⟩
  case isFalse =>
    obtain ⟨c, there, eq⟩ := h other i found
    exact ⟨c, getElem?_push_of_some there, eq⟩

/-- A label that is placed for the first time has the next instruction as its place. -/
theorem mark_eq (label : Label) (a : Assembler) : mark label a = ((),
    match a.labels[label.index]? with
    | some none => { a with labels := a.labels.setIfInBounds label.index (some a.code.size) }
    | _ => a.blame (.labelMarkedTwice a.name label.index)) := rfl

end Assemble

open Assemble in
/-- Basic actions lead to later stages. -/
@[reducible] def later : StageRelation where
  Rel := Extends
  refl := .refl
  trans _ _ _ := .trans
  intSlot a := by
    simp only [intSlot, modifyGet, MonadStateOf.modifyGet, StateT.modifyGet, number]
    split
    · exact { Extends.refl a with intSlots := Nat.le_succ _ }
    · exact (extends_blame a _).trans { Extends.refl _ with intSlots := Nat.le_succ _ }
  objSlot a := by
    simp only [objSlot, modifyGet, MonadStateOf.modifyGet, StateT.modifyGet, number]
    split
    · exact { Extends.refl a with objSlots := Nat.le_succ _ }
    · exact (extends_blame a _).trans { Extends.refl _ with objSlots := Nat.le_succ _ }
  newLabel a := { Extends.refl a with labels := fun _ _ h => getElem?_push_of_some h }
  mark label a := by
    rw [mark_eq]
    dsimp only
    split
    case h_1 free =>
      refine { Extends.refl a with labels := fun l pc h => ?_ }
      have other : label.index ≠ l := by
        rintro rfl
        rw [free] at h
        cases h
      exact (Array.getElem?_setIfInBounds_ne other).trans h
    case h_2 => exact extends_blame a _
  valueConst v a := by
    simp only [valueConst, modifyGet, MonadStateOf.modifyGet, StateT.modifyGet]
    split
    · exact extends_number a _ _
    · refine (extends_number a a.consts.size "constant").trans ?_
      exact { Extends.refl _ with consts := fun _ _ h => getElem?_push_of_some h }
  regexConst r a := by
    simp only [regexConst, modifyGet, MonadStateOf.modifyGet, StateT.modifyGet]
    refine (extends_number a a.consts.size "constant").trans ?_
    exact { Extends.refl _ with consts := fun _ _ h => getElem?_push_of_some h }
  emit i a := { Extends.refl a with
    size := Nat.le_trans (Nat.le_succ _) (Nat.le_of_eq (Array.size_push i).symm)
    code := fun _ _ h => getElem?_push_of_some h }

/-- The action leads to a later stage. -/
abbrev Grows {α : Type} (m : Assemble α) : Prop := Leads later () m

namespace Assemble

variable {γ : Type} {seen : γ}

instance {rule : RuleId} {handle : Option Handle} : Leads later seen (callee rule handle) where
  leads a := by
    simp only [callee, modifyGet, MonadStateOf.modifyGet, StateT.modifyGet, number]
    split
    case h_1 => exact .refl a
    case h_2 unknown =>
      split
      case isTrue =>
        exact { Extends.refl a with
          calleeOf := fun _ _ h => calleeOf_insert unknown h
          keyed := fun _ h => keyed_push h rule handle }
      case isFalse =>
        exact (extends_blame a _).trans { Extends.refl (a.blame _) with
          calleeOf := fun _ _ h => calleeOf_insert (a := a.blame _) unknown h
          keyed := fun sound => absurd sound (blame_fault a _) }

/-! ### Other actions of the assembler -/

section

variable {R : StageRelation}

instance : Leads R seen intSlot := ⟨R.intSlot⟩

instance : Leads R seen objSlot := ⟨R.objSlot⟩

instance {ty : OutputType} : Leads R seen (slotFor ty) := by
  unfold slotFor
  infer_instance

instance : Leads R seen newLabel := ⟨R.newLabel⟩

instance {label : Label} : Leads R seen (mark label) := ⟨R.mark label⟩

instance {v : Value} : Leads R seen (valueConst v) := ⟨R.valueConst v⟩

instance {r : Regex} : Leads R seen (regexConst r) := ⟨R.regexConst r⟩

instance {i : Instruction} : Leads R seen (emit i) := ⟨R.emit i⟩

instance {target : Label} : Leads R seen (jump target) := by unfold jump; infer_instance

instance {cond : Cond} {a : IntSlot} {b : Int} {target : Label} :
    Leads R seen (jumpIf cond a b target) := by unfold jumpIf; infer_instance

instance {cond : Cond} {a b : IntSlot} {target : Label} :
    Leads R seen (jumpIfSlot cond a b target) := by unfold jumpIfSlot; infer_instance

instance {success : Bool} : Leads R seen (ret success) := by unfold ret; infer_instance

instance : Leads R seen savePos := by unfold savePos; infer_instance

instance {src : IntSlot} : Leads R seen (restorePos src) := by unfold restorePos; infer_instance

instance {dst : ObjSlot} {v : Value} : Leads R seen (loadValue dst v) := by
  unfold loadValue
  infer_instance

instance {native : Native} {args : List Slot} {dst : Option Slot} {onFail : Label} :
    Leads R seen (invoke native args dst onFail) := by
  unfold invoke
  infer_instance

end

instance {rule : RuleId} {handle : Option Handle} {name : Option String} {dst : Option Slot}
    {onFail : Label} : Leads later seen (call rule handle name dst onFail) := by
  unfold call
  infer_instance

end Assemble

/-! ## Lowering actions that keep to a relation of stages -/

namespace Lowering

open Assemble

/-- Requests made and a stage of the program. -/
abbrev Stage := Array RuleId × Assembler

/-- A relation that actions of the assembler keep to if they keep to another one. -/
structure LoweringRelation where
  /-- The one stage is related to the other one. -/
  Rel : Stage → Stage → Prop
  /-- The relation of actions of the assembler. -/
  assembled : StageRelation
  refl : ∀ x, Rel x x
  trans : ∀ x y z, Rel x y → Rel y z → Rel x z
  lift : ∀ requests a b, assembled.Rel a b → Rel (requests, a) (requests, b)

/-- The action leads from a stage to one that is related to it, whether it fails or not. -/
class LowerLeads (S : LoweringRelation) {γ : Type} (seen : γ) {α : Type} (m : Lower α) : Prop where
  leads : ∀ requests a, S.Rel (requests, a)
    ((m.run.run requests a).1.2, (m.run.run requests a).2)

/-- A relation that calls keep to where they come with their requests. -/
class CallingRelation (S : LoweringRelation) : Prop where
  callVoid : ∀ child name onFail, LowerLeads S () (callVoid child name onFail)
  callNatural : ∀ cx child name onFail, LowerLeads S () (callNatural cx child name onFail)
  callInto : ∀ cx child dst onFail, LowerLeads S () (callInto cx child dst onFail)

/-- An action followed by another one: the second one runs where the first one ends, unless that
fails. -/
theorem run_bind {α β : Type} (m : Lower α) (f : α → Lower β) (requests : Array RuleId)
    (a : Assembler) :
    (m >>= f).run.run requests a = match m.run.run requests a with
      | ((.ok x, requests), a) => (f x).run.run requests a
      | ((.error e, requests), a) => ((.error e, requests), a) := by
  simp only [bind, ExceptT.bind, ExceptT.run, ExceptT.mk, StateT.bind, StateT.run]
  generalize m requests a = ran
  obtain ⟨⟨_ | x, requests'⟩, a'⟩ := ran <;> rfl

section

variable {α β γ : Type} {seen : γ} {S : LoweringRelation}

instance {x : α} : LowerLeads S seen (pure x : Lower α) := ⟨fun _ _ => S.refl _⟩

instance {m : Assemble α} [Leads S.assembled seen m] : LowerLeads S seen (liftM m : Lower α) :=
  ⟨fun _ a => S.lift _ _ _ (Leads.leads seen (m := m) a)⟩

instance {error : GrammarError} : LowerLeads S seen (reject error : Lower α) :=
  ⟨fun _ _ => S.refl _⟩

instance {error : CompileError} : LowerLeads S seen (throw error : Lower α) :=
  ⟨fun _ _ => S.refl _⟩

instance {m : Lower α} {f : α → Lower β} [LowerLeads S seen m]
    [∀ x, LowerLeads S (seen, x) (f x)] : LowerLeads S seen (m >>= f) where
  leads requests a := by
    have first := LowerLeads.leads (S := S) seen (m := m) requests a
    rw [run_bind]
    generalize m.run.run requests a = ran at first
    obtain ⟨⟨_ | x, requests'⟩, a'⟩ := ran
    · exact first
    · exact S.trans _ _ _ first (LowerLeads.leads (seen, x) (m := f x) requests' a')

instance {c : Prop} [Decidable c] {m n : Lower α} [LowerLeads S seen m] [LowerLeads S seen n] :
    LowerLeads S seen (if c then m else n) := by
  split <;> infer_instance

end

/-! ### Calls -/

/-- The program of the first stage comes before that of the second one. -/
@[reducible] def laterProgram : LoweringRelation where
  Rel x y := Extends x.2 y.2
  assembled := later
  refl x := .refl x.2
  trans _ _ _ := .trans
  lift _ _ _ h := h

/-- The action leads to a later stage, whether it fails or not. -/
abbrev LowerGrows {α : Type} (m : Lower α) : Prop := LowerLeads laterProgram () m

variable {γ : Type} {seen : γ} {cx : Context} {child : RuleId} {name : Option String}
  {dst : Option Slot} {onFail : Label}

instance : LowerLeads laterProgram seen (request child) := ⟨fun _ a => .refl a⟩

instance : Leads later seen (callRule child name dst onFail) := by unfold callRule; infer_instance

instance : LowerLeads laterProgram seen
    (callVoid child name onFail) := by unfold callVoid; infer_instance

/-- Calls lead to later stages. -/
instance : CallingRelation laterProgram where
  callVoid _ _ _ := inferInstance
  callNatural _ _ _ _ := by unfold callNatural; infer_instance
  callInto _ _ dst _ := by
    unfold callInto
    rcases dst with _ | _ | _ <;> dsimp only <;> infer_instance

/-! ### Other actions -/

section

variable {S : LoweringRelation} {R : StageRelation} [CallingRelation S]

instance : LowerLeads S seen (callVoid child name onFail) :=
  ⟨(CallingRelation.callVoid _ _ _).leads⟩

instance : LowerLeads S seen (callNatural cx child name onFail) :=
  ⟨(CallingRelation.callNatural _ _ _ _).leads⟩

instance : LowerLeads S seen (callInto cx child dst onFail) :=
  ⟨(CallingRelation.callInto _ _ _ _).leads⟩

instance {ty : OutputType} {result : Option Slot} : Leads R seen (boxed ty result) := by
  unfold boxed
  rcases result with _ | _ | _ <;> infer_instance

instance : LowerLeads S seen (callObject cx child name onFail) := by
  unfold callObject
  infer_instance

instance {start : Option IntSlot} : Leads R seen (goBack start) := by
  cases start <;> (unfold goBack; infer_instance)

instance {fail : Label} {start : Option IntSlot} : Leads R seen (failTail fail start) := by
  unfold failTail
  infer_instance

instance : Leads R seen (resultSlot cx) := by unfold resultSlot; infer_instance

/-! ### Parts of composite rules -/

instance {separator : Option RuleId} {fail : Label} {first : Bool} :
    LowerLeads S seen (separate separator fail first) := by
  unfold separate
  rcases separator with _ | _ <;> rcases first with _ | _ <;> infer_instance

instance {obj : Option ObjSlot} {fail : Label} {part : Part} :
    LowerLeads S seen (sequencePart cx obj fail part) := by
  unfold sequencePart
  split <;> infer_instance

instance {separator : Option RuleId} {obj : Option ObjSlot} {fail : Label} {first : Bool}
    {parts : List Part} : LowerLeads S seen (sequenceParts cx separator obj fail first parts) := by
  induction parts generalizing first γ with
  | nil => unfold sequenceParts; infer_instance
  | cons part rest ih => unfold sequenceParts; infer_instance

instance {ty : Option String} : Leads R seen (emptyObject ty) := by
  cases ty <;> (unfold emptyObject; infer_instance)

instance {result : Option Slot} {done : Label} {candidates : List RuleId} :
    LowerLeads S seen (tryCandidates cx result done candidates) := by
  induction candidates generalizing γ with
  | nil => unfold tryCandidates; infer_instance
  | cons candidate rest ih => unfold tryCandidates; infer_instance

instance {element : RuleId} {collect : Collect} : Leads R seen
    (accumulator cx element collect) := by
  cases collect <;> (unfold accumulator; infer_instance)

instance {count : IntSlot} {max : Option Nat} {done : Label} :
    Leads R seen (testGreatest count max done) := by
  cases max <;> (unfold testGreatest; infer_instance)

instance {count : IntSlot} {separator : Option RuleId} {first done : Label} :
    LowerLeads S seen (separateElement count separator first done) := by
  cases separator <;> (unfold separateElement; infer_instance)

instance {count : IntSlot} {min : Nat} {fail : Label} : Leads R seen
    (testLeast count min fail) := by
  unfold testLeast
  infer_instance

instance {text : ObjSlot} {item : Option Slot} : Leads R seen (appendText text item) := by
  unfold appendText
  rcases item with _ | _ | _ <;> infer_instance

instance {element : RuleId} {collect : Collect} {acc : Option ObjSlot} {rollback : Label} :
    LowerLeads S seen (gatherElement cx element collect acc rollback) := by
  unfold gatherElement
  split <;> infer_instance

instance {output : OutputType} {result : Option Slot} : Leads R seen
    (loadAbsent output result) := by
  unfold loadAbsent
  split <;> infer_instance

/-! ### Parts of leaves -/

instance {c : IntSlot} {fail : Label} {chars : List Char} : Leads R seen
    (literalChars c fail chars) := by
  induction chars generalizing γ with
  | nil => unfold literalChars; infer_instance
  | cons d rest ih => unfold literalChars; infer_instance

instance {c : IntSlot} {hit : Label} {ranges : List (Char × Char)} :
    Leads R seen (testRanges c hit ranges) := by
  induction ranges generalizing γ with
  | nil => unfold testRanges; infer_instance
  | cons range rest ih => unfold testRanges; infer_instance

instance {c : IntSlot} {hit : Label} {chars : List Char} : Leads R seen
    (testChars c hit chars) := by
  induction chars generalizing γ with
  | nil => unfold testChars; infer_instance
  | cons d rest ih => unfold testChars; infer_instance

instance {negated : Bool} {fail hit : Label} : Leads R seen (takeMember negated fail hit) := by
  unfold takeMember
  infer_instance

instance {negated : Bool} {tests : IntSlot → Label → Assemble Unit}
    [∀ c hit, Leads R () (tests c hit)] : Leads R seen (charClass negated tests) := by
  unfold charClass
  infer_instance

instance {text : String} : Leads R seen
    (exactLiteral text) := by unfold exactLiteral; infer_instance

instance {text : String} : Leads R seen
    (foldedLiteral text) := by unfold foldedLiteral; infer_instance

instance {op : Native} : Leads R seen (native cx op) := by unfold native; infer_instance

/-! ### Rules -/

variable {ranges : List (Char × Char)} {chars : List Char} {negated ignoreCase : Bool}
  {text pattern : String} {kind : NumberKind} {ty base : Option String} {parts : List Part}
  {separator closing : Option RuleId} {candidates : List RuleId} {element opening inner : RuleId}
  {min : Nat} {max : Option Nat} {collect : Collect}

instance : LowerLeads S seen (literal cx text ignoreCase) := by unfold literal; infer_instance

instance : LowerLeads S seen (charRange cx ranges negated) := by
  unfold charRange
  cases ranges.find? (fun range => range.2 < range.1) <;> infer_instance

instance : LowerLeads S seen (charSet cx chars negated) := by unfold charSet; infer_instance

instance [RegexEngine] : LowerLeads S seen (regex cx pattern) := by
  unfold regex
  cases RegexEngine.compile (Regex.anchored pattern) <;> infer_instance

instance : Leads R seen (number cx kind) := by unfold number; infer_instance

instance : Leads R seen (userObject cx) := by unfold userObject; infer_instance

instance : Leads R seen whitespace := by unfold whitespace; infer_instance

instance : Leads R seen eol := by unfold eol; infer_instance

instance : Leads R seen eoi := by unfold eoi; infer_instance

instance : Leads R seen location := by unfold location; infer_instance

instance : LowerLeads S seen (sequence cx ty parts separator) := by
  unfold sequence
  cases checkSequence cx ty parts <;> infer_instance

instance : LowerLeads S seen (alternative cx base candidates) := by
  unfold alternative
  cases checkAlternative cx base candidates <;> infer_instance

instance : LowerLeads S seen (repetition cx element separator min max collect) := by
  unfold repetition
  cases checkRepetition cx element min max collect <;> dsimp only <;> infer_instance

instance : LowerLeads S seen (optional cx child) := by unfold optional; infer_instance

instance : LowerLeads S seen (lookAhead child) := by unfold lookAhead; infer_instance

instance : LowerLeads S seen (notAhead child) := by unfold notAhead; infer_instance

instance : LowerLeads S seen
    (surround cx opening inner closing) := by unfold surround; infer_instance

instance : LowerLeads S seen (capture child) := by unfold capture; infer_instance

/-- Lowering a rule keeps to the relations that its actions keep to. -/
instance [RegexEngine] {rule : Rule} : LowerLeads S seen (body cx rule) := by
  cases rule <;> (simp only [body]; infer_instance)

end

/-! ## Stages of a finished program -/

end Lowering

/-- The stage comes before the end of the construction of the program, whose callees have
matchers. -/
structure Placed (p : Program) (a : Assembler) : Prop where
  name : p.name = a.name
  code : ∀ (pc : Nat) (i : Instruction), a.code[pc]? = some i → p.code[pc]? = some i
  labels : ∀ (l pc : Nat), a.labels[l]? = some (some pc) → p.labels[l]? = some (some pc)
  intSlots : a.intSlots ≤ p.intSlots
  objSlots : a.objSlots ≤ p.objSlots
  consts : ∀ (i : Nat) (c : Constant), a.consts[i]? = some c → p.consts[i]? = some c
  calleeOf : ∀ (rule : RuleId) (i : CalleeIndex), a.calleeOf[rule]? = some i →
    ∃ h, p.callees[i.index]? = some ⟨rule, some h⟩
  sound : a.fault = none

/-- What comes before a stage of a program is a stage of it. -/
theorem Placed.of_extends {p : Program} {a b : Assembler} (placed : Placed p b)
    (h : Extends a b) : Placed p a where
  name := placed.name.trans h.name
  code := fun _ _ found => placed.code _ _ (h.code _ _ found)
  labels := fun _ _ found => placed.labels _ _ (h.labels _ _ found)
  intSlots := Nat.le_trans h.intSlots placed.intSlots
  objSlots := Nat.le_trans h.objSlots placed.objSlots
  consts := fun _ _ found => placed.consts _ _ (h.consts _ _ found)
  calleeOf := fun _ _ found => placed.calleeOf _ _ (h.calleeOf _ _ found)
  sound := h.fault placed.sound

section

variable {α β : Type} {p : Program} {a b : Assembler}

/-- A sequence of actions of the assembler, taken apart into stages of one program. -/
theorem assemble_split {m : Assemble α} {f : α → Assemble β} [∀ x, Leads later x (f x)] {y : β}
    (h : (m >>= f) a = (y, b)) (placed : Placed p b) :
    ∃ x c, m a = (x, c) ∧ f x c = (y, b) ∧ Placed p c := by
  refine ⟨(m a).1, (m a).2, rfl, h, placed.of_extends ?_⟩
  have grown := Leads.leads (R := later) (m a).1 (m := f (m a).1) (m a).2
  rwa [show f (m a).1 (m a).2 = (y, b) from h] at grown

namespace Lowering

/-- The lowering action leads without an error from stage `a` to stage `b` and returns `x`. -/
def Emits (m : Lower α) (a : Assembler) (x : α) (b : Assembler) : Prop :=
  ∃ requests requests', m.run.run requests a = ((.ok x, requests'), b)

/-- An action of the assembler, as a lowering action. -/
theorem Emits.assembled {m : Assemble α} {x : α} (h : Emits (liftM m) a x b) : m a = (x, b) := by
  obtain ⟨requests, requests', h⟩ := h
  change ((Except.ok (m a).1, requests), (m a).2) = ((Except.ok x, requests'), b) at h
  simp only [Prod.mk.injEq, Except.ok.injEq] at h
  exact Prod.ext h.1.1 h.2

/-- An action that only returns something. -/
theorem Emits.returned {x y : α} (h : Emits (pure x) a y b) : x = y ∧ a = b := by
  obtain ⟨requests, requests', h⟩ := h
  change ((Except.ok x, requests), a) = ((Except.ok y, requests'), b) at h
  simp only [Prod.mk.injEq, Except.ok.injEq] at h
  exact ⟨h.1.1, h.2⟩

/-- An action that is refused leads nowhere. -/
theorem Emits.not_thrown {error : CompileError} {x : α} (h : Emits (throw error) a x b) :
    False := by
  obtain ⟨requests, requests', h⟩ := h
  cases h

/-- An action leads to a later stage, whatever the actions before it returned. -/
theorem Emits.extends_seen {γ : Type} (seen : γ) {m : Lower α} [LowerLeads laterProgram seen m]
    {x : α} (h : Emits m a x b) : Extends a b := by
  obtain ⟨requests, requests', h⟩ := h
  have grown := LowerLeads.leads (S := laterProgram) seen (m := m) requests a
  rwa [h] at grown

/-- An action that emits code leads to a later stage. -/
theorem Emits.extends' {m : Lower α} [LowerGrows m] {x : α} (h : Emits m a x b) : Extends a b :=
  h.extends_seen ()

/-- A sequence of lowering actions, taken apart into stages of one program. -/
theorem Emits.split {m : Lower α} {f : α → Lower β} [∀ x, LowerLeads laterProgram x (f x)] {y : β}
    (h : Emits (m >>= f) a y b) (placed : Placed p b) :
    ∃ x c, Emits m a x c ∧ Emits (f x) c y b ∧ Placed p c := by
  obtain ⟨requests, requests', h⟩ := h
  rw [run_bind] at h
  generalize ran : m.run.run requests a = first at h
  obtain ⟨⟨_ | x, between⟩, c⟩ := first
  · cases h
  · have rest : Emits (f x) c y b := ⟨between, requests', h⟩
    exact ⟨x, c, ⟨requests, between, ran⟩, rest, placed.of_extends (rest.extends_seen x)⟩

/-- A sequence that starts with an action of the assembler, taken apart into stages of one
program. -/
theorem Emits.step {m : Assemble α} {f : α → Lower β} [∀ x, LowerLeads laterProgram x (f x)] {y : β}
    (h : Emits (liftM m >>= f) a y b) (placed : Placed p b) :
    ∃ x c, m a = (x, c) ∧ Emits (f x) c y b ∧ Placed p c := by
  obtain ⟨x, c, first, rest, placed⟩ := h.split placed
  exact ⟨x, c, first.assembled, rest, placed⟩

end Lowering

end

end Packrat
