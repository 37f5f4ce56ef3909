import Packrat.Grammar.OutputType
import Packrat.Program.Fault
import Packrat.Program.Instruction
import Packrat.Regex

/-!
# Programs

The executable form of one rule, and the handles by which programs call each other.

* `Product`: what a successful run yields; scalars stay plain integers.
* `RecursionCheck`: how a rule is guarded against entering itself without progress.
* `Program`: instructions with their tables; look-ups fault where an entry is missing.
* `Matcher`, `Arena`, `Handle`: rules whose programs may still be missing, known by handles.
-/

namespace Packrat

/-! ## Products -/

/-- What a successful run of a program yields. -/
inductive Product where
  /-- Nothing. -/
  | void
  /-- The content of an integer register. -/
  | int (raw : Int)
  /-- The content of an object register. -/
  | obj (value : Value)
  deriving Inhabited

/-- The product as a value, read according to the output type of the rule. Nothing stays nothing,
and so does a number that is no code point where a character is produced. -/
def Product.toValue? (p : Product) (output : OutputType) : Option Value :=
  match p with
  | .void => none
  | .obj value => some value
  | .int raw => (if output = .char then ScalarKind.char else .int).box? raw

/-! ## Tables -/

/-- An entry of the constant table. -/
inductive Constant where
  /-- A value. -/
  | value (v : Value)
  /-- A regular expression. -/
  | regex (r : Regex)

/-- The place of a matcher in an arena. -/
structure Handle where
  /-- The place, counted from zero. -/
  index : Nat
  deriving Repr, DecidableEq

/-- An entry of the callee table: a rule, and its matcher unless there is none. -/
structure Callee where
  /-- The rule called. -/
  rule : RuleId
  /-- Its matcher. -/
  handle : Option Handle
  deriving Repr, DecidableEq

/-- How a rule is guarded against entering itself at the place where it is active. -/
inductive RecursionCheck where
  /-- It is not. -/
  | none
  /-- By a bit of the mask of active rules. -/
  | bit (index : Nat)
  /-- By a look at the active rules themselves. -/
  | walk
  deriving Repr, DecidableEq

/-- The executable form of one rule. -/
structure Program where
  /-- The display name of the rule. -/
  name : String
  /-- The rule. -/
  rule : RuleId
  /-- The instructions. -/
  code : Array Instruction
  /-- The place of each label; none for a label that is neither placed nor used. -/
  labels : Array (Option Nat)
  /-- How many integer registers a run has. -/
  intSlots : Nat
  /-- How many object registers a run has. -/
  objSlots : Nat
  /-- The constants. -/
  consts : Array Constant
  /-- The rules called. -/
  callees : Array Callee
  /-- The output type of the rule. -/
  output : OutputType
  /-- The register that holds the product on success. -/
  result : Option Slot
  /-- Whether outcomes are remembered. -/
  concrete : Bool
  /-- Whether entering and leaving is traced. -/
  traced : Bool
  /-- How the rule is guarded. -/
  recursion : RecursionCheck

namespace Program

/-- The instruction at a program counter. -/
def instruction (p : Program) (pc : Nat) : Except EngineFault Instruction :=
  match p.code[pc]? with
  | some i => .ok i
  | none => .error (.pcOutOfBounds p.name pc)

/-- The place of a label that is neither placed nor used: past every instruction. -/
def nowhere : Nat := UInt64.size - 1

/-- The program counter of a label. -/
def target (p : Program) (label : Label) : Except EngineFault Nat :=
  match p.labels[label.index]? with
  | some place => .ok (place.getD nowhere)
  | none => .error (.unmarkedLabel p.name label.index)

/-- A value of the constant table. -/
def valueConst (p : Program) (index : ConstIndex) : Except EngineFault Value :=
  match p.consts[index.index]? with
  | some (.value v) => .ok v
  | _ => .error (.constantKind p.name index.index "value")

/-- A regular expression of the constant table. -/
def regexConst (p : Program) (index : ConstIndex) : Except EngineFault Regex :=
  match p.consts[index.index]? with
  | some (.regex r) => .ok r
  | _ => .error (.constantKind p.name index.index "regex")

/-- The matcher of a callee. -/
def callee (p : Program) (index : CalleeIndex) : Except EngineFault Handle :=
  match (p.callees[index.index]?).bind Callee.handle with
  | some h => .ok h
  | none => .error (.unresolvedSubroutine p.rule)

/-- The rules called, in table order, as far as they have matchers. -/
def calleeRules (p : Program) : List RuleId :=
  (p.callees.toList.filter (fun c => c.handle.isSome)).map Callee.rule

/-- The program with the matchers of its callees filled in. -/
def link (p : Program) (handleOf : RuleId → Option Handle) : Program :=
  { p with callees := p.callees.map (fun c => ⟨c.rule, handleOf c.rule⟩) }

end Program

/-! ## Matchers -/

/-- A rule whose program may still be missing. -/
structure Matcher where
  /-- The rule. -/
  rule : RuleId
  /-- Its display name. -/
  name : String
  /-- Its program, once there is one. -/
  program? : Option Program

namespace Matcher

/-- A matcher without a program. -/
def declare (rule : RuleId) (name : String) : Matcher := ⟨rule, name, none⟩

/-- Whether the matcher has its program. -/
def isResolved (m : Matcher) : Bool := m.program?.isSome

/-- Give the matcher its program, once. -/
def resolve (m : Matcher) (p : Program) : Except EngineFault Matcher :=
  match m.program? with
  | none => .ok { m with program? := some p }
  | some _ => .error (.placeholderFilledTwice m.rule)

/-- The program of the matcher. -/
def program (m : Matcher) : Except EngineFault Program :=
  match m.program? with
  | some p => .ok p
  | none => .error (.unresolvedSubroutine m.rule)

end Matcher

/-- Matchers by their handles. -/
abbrev Arena := Array Matcher

namespace Arena

/-- Add a matcher without a program. -/
def declare (a : Arena) (rule : RuleId) (name : String) : Arena × Handle :=
  (a.push (.declare rule name), ⟨a.size⟩)

/-- The matcher of a handle. -/
def get? (a : Arena) (h : Handle) : Option Matcher := a[h.index]?

/-- Give the matcher of a handle its program, once. -/
def resolve (a : Arena) (h : Handle) (p : Program) : Except EngineFault Arena :=
  match a.get? h with
  | some m => (m.resolve p).map (fun m => a.setIfInBounds h.index m)
  | none => .error (.unresolvedSubroutine p.rule)

end Arena

end Packrat
