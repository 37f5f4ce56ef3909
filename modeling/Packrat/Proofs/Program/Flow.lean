import Packrat.Proofs.Machine.Instruction

/-!
# The flow of a program

What is known of a run at a place of its program, from the instructions alone, whichever way the run
came there: whether it is back where it began, which registers hold the position where it began, and
which registers gather a list or a text. A path takes a conditional jump both ways, so what holds on
all paths holds in all runs.

* `Known`: what is known at a place. `Instruction.after` is how an instruction changes it.
* `Program.Path`: the places that control can come to, with what is known there.
* `Instruction.Fits`: registers, labels and table entries of an instruction are there.
* `Program.Safe`: nothing goes wrong on the paths of some length from a place on.

Main statement: `Program.Path.safe`.
-/

namespace Packrat

/-! ## What is known -/

/-- What a register is used to gather. -/
inductive Gathering where
  /-- The items of a list. -/
  | list
  /-- The parts of a text. -/
  | text
  deriving Repr, DecidableEq

/-- What is known of a run at a place of its program. -/
structure Known where
  /-- Whether the position is the one where the run began. -/
  home : Bool
  /-- Whether a register holds the position where the run began. -/
  start : IntSlot → Bool
  /-- What a register gathers. -/
  gathers : ObjSlot → Option Gathering

namespace Known

/-- What is known where a run begins. -/
def initial : Known := ⟨true, fun _ => false, fun _ => none⟩

/-- The position may be another one now. -/
def moved (k : Known) : Known := { k with home := false }

/-- The position is kept in a register. -/
def kept (k : Known) (dst : IntSlot) : Known :=
  { k with start := fun r => if r = dst then k.home else k.start r }

/-- An object register is set, to something that is being gathered or to anything else. -/
def set (k : Known) (dst : ObjSlot) (gathered : Option Gathering) : Known :=
  { k with gathers := fun r => if r = dst then gathered else k.gathers r }

/-- A result is stored. -/
def stored (k : Known) : Option Slot → Known
  | some (.obj dst) => k.set dst none
  | some (.int _) | none => k

/-- Storing a product leaves what is known of the position. -/
theorem stored_home (k : Known) (dst : Option Slot) : (k.stored dst).home = k.home := by
  rcases dst with _ | _ | _ <;> rfl

/-- Storing a product leaves what is known of the saved start. -/
theorem stored_start (k : Known) (dst : Option Slot) : (k.stored dst).start = k.start := by
  rcases dst with _ | _ | _ <;> rfl

end Known

/-! ## Instructions -/

/-- The registers that an operand names. -/
def Operand.slots : Operand → List Slot
  | .slot r => [.int r]
  | .imm _ => []

namespace Instruction

/-- The registers that an instruction names. -/
def slots : Instruction → List Slot
  | .jump _ | .ret _ | .advance _ => []
  | .jumpIf _ a b _ => .int a :: b.slots
  | .jumpIfObjEq a b _ => [.obj a, .obj b]
  | .loadImm dst _ | .addImm dst _ | .savePos dst | .peekChar dst => [.int dst]
  | .restorePos src => [.int src]
  | .loadConst dst _ | .construct dst _ | .listNew dst | .textNew dst => [.obj dst]
  | .setField obj _ src => [.obj obj, .obj src]
  | .box dst src _ => [.obj dst, .int src]
  | .listPush list item => [.obj list, .obj item]
  | .textPush text item => [.obj text, .obj item]
  | .textPushChar text item => [.obj text, .int item]
  | .slice dst start => [.obj dst, .int start]
  | .invoke _ args dst _ => args ++ dst.toList
  | .call _ _ dst _ => dst.toList

/-- Control may go on with the instruction that comes next. -/
def falls : Instruction → Bool
  | .jump _ | .ret _ => false
  | _ => true

/-- What is known at the next instruction. Positions are written to registers by `savePos` only, and
what writes other integers uses other registers (`Program.Orderly`); so those do not count here. -/
def after (k : Known) : Instruction → Known
  | .savePos dst => k.kept dst
  | .restorePos src => { k with home := k.start src }
  | .advance _ => k.moved
  | .loadConst dst _ | .construct dst _ | .box dst _ _ | .slice dst _ => k.set dst none
  | .setField obj _ src => (k.set src none).set obj none
  | .listNew dst => k.set dst (some .list)
  | .textNew dst => k.set dst (some .text)
  | .listPush _ item | .textPush _ item => k.set item none
  | .invoke _ _ dst _ | .call _ _ dst _ => (k.stored dst).moved
  | .jump _ | .jumpIf _ _ _ _ | .jumpIfObjEq _ _ _ | .ret _ | .loadImm _ _ | .addImm _ _
  | .peekChar _ | .textPushChar _ _ => k

/-- A register that is added to gathers what is added. The item's register is emptied first. -/
def Gathers (k : Known) : Instruction → Prop
  | .listPush list item => (k.set item none).gathers list = some .list
  | .textPush text item => (k.set item none).gathers text = some .text
  | .textPushChar text _ => k.gathers text = some .text
  | _ => True

/-- A run that ends without success is back where it began. -/
def ReturnsHome (k : Known) : Instruction → Prop
  | .ret false => k.home = true
  | _ => True

/-- The table entries that an instruction names are there, and of the kind that it needs. -/
def Resolves (p : Program) : Instruction → Prop
  | .loadConst _ index => ∃ v, p.valueConst index = .ok v
  | .invoke (.matchRegex index) _ _ _ => ∃ r, p.regexConst index = .ok r
  | .call index _ _ _ => ∃ h, p.callee index = .ok h
  | _ => True

/-- Everything that an instruction names is there. -/
structure Fits (p : Program) (i : Instruction) : Prop where
  slots : ∀ slot ∈ i.slots, Machine.SlotInside p (some slot)
  target : ∀ label, i.target? = some label → ∃ pc, p.target label = .ok pc ∧ pc < p.code.size
  tables : i.Resolves p

end Instruction

/-! ## Paths -/

namespace Program

/-- Control can come to a place, and what is known there. -/
inductive Path (p : Program) : Nat → Known → Prop where
  /-- Where the program begins. -/
  | start : Path p 0 .initial
  /-- From an instruction to the next one. -/
  | next {pc : Nat} {k : Known} {i : Instruction} (path : Path p pc k)
      (here : p.code[pc]? = some i) (falls : i.falls = true) : Path p (pc + 1) (i.after k)
  /-- From an instruction to a label. What an instruction that goes there has done is nothing. -/
  | leap {pc pc' : Nat} {k : Known} {i : Instruction} {label : Label} (path : Path p pc k)
      (here : p.code[pc]? = some i) (target : i.target? = some label)
      (place : p.target label = .ok pc') : Path p pc' k

/-- Registers gather what is added to them, and failures are back where the run began, on the paths
of up to `n` instructions from a place on. -/
def Safe (p : Program) : (n : Nat) → (pc : Nat) → Known → Prop
  | 0, _, _ => True
  | n + 1, pc, k => ∀ i, p.code[pc]? = some i → i.Gathers k ∧ i.ReturnsHome k ∧
      (i.falls = true → p.Safe n (pc + 1) (i.after k)) ∧
      ∀ label pc', i.target? = some label → p.target label = .ok pc' → p.Safe n pc' k

variable {p : Program} {n pc : Nat} {k : Known} {i : Instruction}

/-- What is safe for one more step is safe. -/
theorem Safe.weaken (safe : p.Safe (n + 1) pc k) : p.Safe n pc k := by
  induction n generalizing pc k with
  | zero => trivial
  | succ n ih =>
    intro i here
    obtain ⟨gathers, home, next, leap⟩ := safe i here
    exact ⟨gathers, home, fun falls => ih (next falls),
      fun label pc' target place => ih (leap label pc' target place)⟩

/-- What is safe from the beginning on is safe at every place of a path. -/
theorem Path.safe (sound : ∀ n, p.Safe n 0 .initial) (path : p.Path pc k) (n : Nat) :
    p.Safe n pc k := by
  induction path generalizing n with
  | start => exact sound n
  | next _ here falls ih => exact (ih (n + 1) _ here).2.2.1 falls
  | leap _ here target place ih => exact (ih (n + 1) _ here).2.2.2 _ _ target place

/-- The instructions on paths of a safe program do what they should. -/
theorem Path.gathers (sound : ∀ n, p.Safe n 0 .initial) (path : p.Path pc k)
    (here : p.code[pc]? = some i) : i.Gathers k :=
  (path.safe sound 1 i here).1

/-- A failing return on a path of a sound program is made at the entry position. -/
theorem Path.returnsHome (sound : ∀ n, p.Safe n 0 .initial) (path : p.Path pc k)
    (here : p.code[pc]? = some i) : i.ReturnsHome k :=
  (path.safe sound 1 i here).2.1

end Program

end Packrat
