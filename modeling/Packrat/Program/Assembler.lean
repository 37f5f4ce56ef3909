import Std.Data.HashMap
import Packrat.Program.Basic

/-!
# Assembling programs

A program under construction. Instructions are appended in order; labels are allocated first and
placed later, at the end of the code so far; registers, constants and callees are numbered as
they are asked for. Numbers above 65535 do not exist: the first table that needs one is
remembered as the fault with which the program is refused in the end.

* `Assembler`: the state of the construction.
* `Assemble`: the actions on it.
* `Assembler.finish`: the program. It is refused if a label was placed twice or behind the last
  instruction, or if an instruction may jump to a label that has no place.
-/

namespace Packrat

/-- A program under construction. -/
structure Assembler where
  /-- The display name of the rule. -/
  name : String
  /-- The rule. -/
  rule : RuleId
  /-- The instructions so far. -/
  code : Array Instruction
  /-- The place of each label, once it has one. -/
  labels : Array (Option Nat)
  /-- How many integer registers are in use. -/
  intSlots : Nat
  /-- How many object registers are in use. -/
  objSlots : Nat
  /-- The constants so far. -/
  consts : Array Constant
  /-- The callees so far. -/
  callees : Array Callee
  /-- The entry of the callee table for each rule in it. -/
  calleeOf : Std.HashMap RuleId CalleeIndex
  /-- The first fault, reported in the end. -/
  fault : Option EngineFault

/-- An action on a program under construction. -/
abbrev Assemble := StateM Assembler

namespace Assembler

/-- Nothing assembled yet. -/
def start (rule : RuleId) (name : String) : Assembler :=
  ⟨name, rule, #[], #[], 0, 0, #[], #[], ∅, none⟩

/-- The greatest number of a table entry. -/
def maxIndex : Nat := 65535

/-- Remember a fault unless there is an earlier one. -/
def blame (a : Assembler) (fault : EngineFault) : Assembler :=
  { a with fault := a.fault.orElse fun _ => some fault }

/-- The number of a table entry. One that is too great is blamed on the table. -/
def number (a : Assembler) (i : Nat) (table : String) : Nat × Assembler :=
  if i ≤ maxIndex then (i, a) else (maxIndex, a.blame (.programTooLarge a.name table))

end Assembler

namespace Assemble

/-! ## Registers -/

/-- A fresh integer register. -/
def intSlot : Assemble IntSlot :=
  modifyGet fun a =>
    let (i, a) := a.number a.intSlots "int slot"
    (⟨i⟩, { a with intSlots := a.intSlots + 1 })

/-- A fresh object register. -/
def objSlot : Assemble ObjSlot :=
  modifyGet fun a =>
    let (i, a) := a.number a.objSlots "object slot"
    (⟨i⟩, { a with objSlots := a.objSlots + 1 })

/-- A fresh register for values of a type: none for no value, an integer register for scalars, an
object register for all else. -/
def slotFor (ty : OutputType) : Assemble (Option Slot) := do
  if ty.isVoid then return none
  else if ty.isScalar then return some (.int (← intSlot))
  else return some (.obj (← objSlot))

/-! ## Labels -/

/-- A fresh label. -/
def newLabel : Assemble Label :=
  modifyGet fun a => (⟨a.labels.size⟩, { a with labels := a.labels.push none })

/-- Place a label at the end of the code so far. -/
def mark (label : Label) : Assemble Unit :=
  modify fun a =>
    match a.labels[label.index]? with
    | some none => { a with labels := a.labels.setIfInBounds label.index (some a.code.size) }
    | _ => a.blame (.labelMarkedTwice a.name label.index)

/-! ## Tables -/

/-- Whether a constant is a value equal to the given one. -/
def isValue (v : Value) : Constant → Bool
  | .value w => w == v
  | .regex _ => false

/-- The number of a value constant; equal values share one entry. -/
def valueConst (v : Value) : Assemble ConstIndex :=
  modifyGet fun a =>
    match a.consts.findIdx? (isValue v) with
    | some i =>
      let (i, a) := a.number i "constant"
      (⟨i⟩, a)
    | none =>
      let (i, a) := a.number a.consts.size "constant"
      (⟨i⟩, { a with consts := a.consts.push (.value v) })

/-- The number of a regular expression, which always gets an entry of its own. -/
def regexConst (r : Regex) : Assemble ConstIndex :=
  modifyGet fun a =>
    let (i, a) := a.number a.consts.size "constant"
    (⟨i⟩, { a with consts := a.consts.push (.regex r) })

/-- The number of a callee; every rule has one entry, that of the first matcher given for it. -/
def callee (rule : RuleId) (handle : Option Handle) : Assemble CalleeIndex :=
  modifyGet fun a =>
    match a.calleeOf[rule]? with
    | some i => (i, a)
    | none =>
      let (i, a) := a.number a.callees.size "callee"
      (⟨i⟩, { a with
        callees := a.callees.push ⟨rule, handle⟩
        calleeOf := a.calleeOf.insert rule ⟨i⟩ })

/-! ## Code -/

/-- Append an instruction. -/
def emit (i : Instruction) : Assemble Unit :=
  modify fun a => { a with code := a.code.push i }

/-- Append a jump. -/
def jump (target : Label) : Assemble Unit :=
  emit (.jump target)

/-- Append a jump that is taken if a comparison with a number holds. -/
def jumpIf (cond : Cond) (a : IntSlot) (b : Int) (target : Label) : Assemble Unit :=
  emit (.jumpIf cond a (.imm b) target)

/-- Append a jump that is taken if a comparison of two registers holds. -/
def jumpIfSlot (cond : Cond) (a b : IntSlot) (target : Label) : Assemble Unit :=
  emit (.jumpIf cond a (.slot b) target)

/-- Append the end of a run. -/
def ret (success : Bool) : Assemble Unit :=
  emit (.ret success)

/-- Keep the position in a fresh register. -/
def savePos : Assemble IntSlot := do
  let dst ← intSlot
  emit (.savePos dst)
  return dst

/-- Append the return to a kept position. -/
def restorePos (src : IntSlot) : Assemble Unit :=
  emit (.restorePos src)

/-- Append the load of a value constant. -/
def loadValue (dst : ObjSlot) (v : Value) : Assemble Unit := do
  let index ← valueConst v
  emit (.loadConst dst index)

/-- Append a call. -/
def call (rule : RuleId) (handle : Option Handle) (name : Option String) (dst : Option Slot)
    (onFail : Label) : Assemble Unit := do
  let index ← callee rule handle
  emit (.call index name dst onFail)

/-- Append an operation on the text. -/
def invoke (native : Native) (args : List Slot) (dst : Option Slot) (onFail : Label) :
    Assemble Unit :=
  emit (.invoke native args dst onFail)

end Assemble

namespace Assembler

/-! ## Finishing -/

/-- The labels that instructions may jump to, by number. -/
def usedLabels (a : Assembler) : Array Bool :=
  a.code.foldl (fun used i =>
    match i.target? with
    | some label => used.setIfInBounds label.index true
    | none => used) (Array.replicate a.labels.size false)

/-- Check the places of labels in order, the first of them being label `i`: a place lies inside
the code, and a label that is used has one. -/
def checkLabels (a : Assembler) (used : Array Bool) (i : Nat) :
    List (Option Nat) → Except EngineFault Unit
  | [] => .ok ()
  | some pc :: rest =>
    if pc < a.code.size then a.checkLabels used (i + 1) rest
    else .error (.pcOutOfBounds a.name pc)
  | none :: rest =>
    if used.getD i false then .error (.unmarkedLabel a.name i)
    else a.checkLabels used (i + 1) rest

/-- The finished program. -/
def finish (a : Assembler) (output : OutputType) (result : Option Slot)
    (concrete traced : Bool) : Except EngineFault Program :=
  match a.fault with
  | some fault => .error fault
  | none =>
    if maxIndex < a.intSlots then .error (.programTooLarge a.name "int slot")
    else if maxIndex < a.objSlots then .error (.programTooLarge a.name "object slot")
    else
      match a.checkLabels a.usedLabels 0 a.labels.toList with
      | .error fault => .error fault
      | .ok () => .ok {
          name := a.name
          rule := a.rule
          code := a.code
          labels := a.labels
          intSlots := a.intSlots
          objSlots := a.objSlots
          consts := a.consts
          callees := a.callees
          output
          result
          concrete
          traced
          recursion := .none }

end Assembler

end Packrat
