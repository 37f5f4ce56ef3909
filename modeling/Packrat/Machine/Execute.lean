import Packrat.Machine.State
import Packrat.Number.Literal
import Packrat.Text.Case
import Packrat.Text.Cursor

/-!
# Executing instructions

What each instruction does with the registers of its program and the cursor. Calls to other rules
and the end of the run are left to the machine, which is told by a `Control`.

Registers belong to one run of one program: there are as many as the program says, and any other
register number is a fault.

* `Local`: the registers and the cursor.
* `Exec`: actions on them that can fault; what was done before a fault stays done.
* `perform`: the operations on the text.
* `execute`: one instruction.
-/

namespace Packrat.Machine

/-- The registers of a run. -/
structure Registers where
  /-- The integer registers. -/
  ints : Array Int
  /-- The object registers. -/
  objs : Array Value

/-- The registers of a program before its first instruction: zeros and nulls. -/
def Registers.fresh (p : Program) : Registers :=
  ⟨Array.replicate p.intSlots 0, Array.replicate p.objSlots .null⟩

/-- What an instruction can change. -/
structure Local where
  /-- The registers. -/
  regs : Registers
  /-- The place in the text. -/
  cursor : Cursor

/-- Actions on registers and cursor that can fault. -/
abbrev Exec := EStateM EngineFault Local

/-- How a run goes on after an instruction. -/
inductive Control where
  /-- With the next instruction. -/
  | next
  /-- With the instruction at a program counter. -/
  | goto (pc : Nat)
  /-- With a call of another rule. -/
  | call (callee : Handle) (name : Option String) (dst : Option Slot) (onFail : Label)
  /-- Not at all: the run is over, with a product if it was successful. -/
  | ret (outcome : Option Product)

/-! ## Registers -/

/-- The content of an integer register. -/
def readInt (p : Program) (slot : IntSlot) : Exec Int := fun s =>
  match s.regs.ints[slot.index]? with
  | some n => .ok n s
  | none => .error (.slotOutOfRange p.name "int" slot.index p.intSlots) s

/-- Set an integer register. -/
def writeInt (p : Program) (slot : IntSlot) (n : Int) : Exec Unit := fun ⟨⟨ints, objs⟩, cursor⟩ =>
  if slot.index < ints.size then .ok () ⟨⟨ints.setIfInBounds slot.index n, objs⟩, cursor⟩
  else .error (.slotOutOfRange p.name "int" slot.index p.intSlots) ⟨⟨ints, objs⟩, cursor⟩

/-- The content of an object register. -/
def readObj (p : Program) (slot : ObjSlot) : Exec Value := fun s =>
  match s.regs.objs[slot.index]? with
  | some v => .ok v s
  | none => .error (.slotOutOfRange p.name "obj" slot.index p.objSlots) s

/-- Set an object register. -/
def writeObj (p : Program) (slot : ObjSlot) (v : Value) : Exec Unit := fun ⟨⟨ints, objs⟩, cursor⟩ =>
  if slot.index < objs.size then .ok () ⟨⟨ints, objs.setIfInBounds slot.index v⟩, cursor⟩
  else .error (.slotOutOfRange p.name "obj" slot.index p.objSlots) ⟨⟨ints, objs⟩, cursor⟩

/-- Move the content out of an object register, leaving `null`. -/
def takeObj (p : Program) (slot : ObjSlot) : Exec Value := fun ⟨⟨ints, objs⟩, cursor⟩ =>
  match objs[slot.index]? with
  | some v => .ok v ⟨⟨ints, objs.setIfInBounds slot.index .null⟩, cursor⟩
  | none => .error (.slotOutOfRange p.name "obj" slot.index p.objSlots) ⟨⟨ints, objs⟩, cursor⟩

/-- The position kept in a register. -/
def readPosition (p : Program) (slot : IntSlot) : Exec Nat := do
  let raw ← readInt p slot
  if raw < 0 then throw (.badPosition p.name raw) else return raw.toNat

/-- A look-up in the program's tables. -/
def lookUp (found : Except EngineFault α) : Exec α :=
  match found with
  | .ok a => pure a
  | .error fault => throw fault

/-- Go to a label. -/
def goTo (p : Program) (label : Label) : Exec Control := do
  let pc ← lookUp (p.target label)
  return .goto pc

/-! ## The cursor -/

/-- The current position. -/
def position : Exec Nat :=
  return (← get).cursor.pos

/-- The next character. Looking at it counts as examining its place. -/
def peekChar (env : Environment) : Exec (Option Char) := fun ⟨regs, ⟨pos, furthest⟩⟩ =>
  .ok (Text.charAt? env.text pos) ⟨regs, ⟨pos, max furthest pos⟩⟩

/-- Move forward to a position, which counts as examined. -/
def advanceTo (stop : Nat) : Exec Unit := fun ⟨regs, ⟨_, furthest⟩⟩ =>
  .ok () ⟨regs, ⟨stop, max furthest stop⟩⟩

/-- Go to a position, which must be a boundary of the text. -/
def seek (env : Environment) (p : Program) (pos : Nat) : Exec Unit := do
  if Text.isBoundary env.text pos then
    modify fun ⟨regs, cursor⟩ => ⟨regs, { cursor with pos }⟩
  else throw (.badPosition p.name (Word.clamp pos))

/-! ## Operations on the text -/

/-- The content of an operation's argument, as a value. -/
def readArg (p : Program) (args : List Slot) : Exec Value := do
  match args with
  | .int slot :: _ => return .int (← readInt p slot)
  | .obj slot :: _ => readObj p slot
  | [] => throw (.valueKind p.name "argument" "nothing")

/-- Consume the text up to a position and produce it. -/
def consumeTo (env : Environment) (stop : Nat) : Exec Value := do
  let start ← position
  advanceTo stop
  return .str ((Text.slice? env.text start stop).getD "")

/-- Perform an operation on the text. It produces a value, or nothing if it does not succeed, in
which case nothing is consumed. A negative count asks for more characters than any text has. -/
def perform (env : Environment) (p : Program) (args : List Slot) : Native → Exec (Option Value)
  | .matchRegex index => do
    let regex ← lookUp (p.regexConst index)
    match regex.matchAt env.text (← position) with
    | some stop => some <$> consumeTo env stop
    | none => return none
  | .parseNumber kind => do
    let pos ← position
    match Number.scanNumber kind (Text.runAt Number.isLiteralChar env.text pos) with
    | some (length, v) =>
      advanceTo (pos + length)
      return some v
    | none => return none
  | .takeChars => do
    match ← readArg p args with
    | .int n =>
      let count := if n < 0 then UInt64.size - 1 else n.toNat
      match Text.skipExactly? env.text (← position) count with
      | some stop => some <$> consumeTo env stop
      | none => return none
    | other => throw (.valueKind p.name "int" other.typeName)
  | .foldCase => do
    match ← readArg p args with
    | .str text => return some (.str (Text.lowerCase text))
    | other => throw (.valueKind p.name "str" other.typeName)
  | .userObject => return some env.user

/-! ## Results of operations and calls -/

/-- Store the value that an operation produced. Integer registers take scalars. -/
def storeValue (p : Program) (dst : Option Slot) (v : Value) : Exec Unit :=
  match dst with
  | none => pure ()
  | some (.obj slot) => writeObj p slot v
  | some (.int slot) =>
    match v with
    | .int n => writeInt p slot n
    | .char c => writeInt p slot c.toNat
    | .bool b => writeInt p slot (if b then 1 else 0)
    | other => throw (.scalarExpected p.name other.typeName)

/-- Store the product of a call. It must come from the bank of the register. -/
def storeProduct (p : Program) (dst : Option Slot) (product : Product) : Exec Unit :=
  match dst, product with
  | none, _ => pure ()
  | some (.int slot), .int raw => writeInt p slot raw
  | some (.obj slot), .obj v => writeObj p slot v
  | some (.int _), .obj v => throw (.scalarExpected p.name v.typeName)
  | some (.int _), .void => throw (.scalarExpected p.name "nothing")
  | some (.obj _), .int _ => throw (.valueKind p.name "object" "int")
  | some (.obj _), .void => throw (.valueKind p.name "object" "nothing")

/-- The product of a successful run. -/
def product (p : Program) : Exec Product := do
  match p.result with
  | none => return .void
  | some (.int slot) => return .int (← readInt p slot)
  | some (.obj slot) => return .obj (← takeObj p slot)

/-! ## Lists and texts under construction -/

/-- Append an item to the list in a register. -/
def pushItem (p : Program) (list : ObjSlot) (item : Value) : Exec Unit := do
  match ← takeObj p list with
  | .list items => writeObj p list (.list (items.push item))
  | other => throw (.valueKind p.name "list" other.typeName)

/-- Append a text or a character to the text in a register. -/
def pushText (p : Program) (text : ObjSlot) (item : Value) : Exec Unit := do
  match ← takeObj p text with
  | .str s =>
    match item with
    | .str t => writeObj p text (.str (s ++ t))
    | .char c => writeObj p text (.str (s.push c))
    | other => throw (.valueKind p.name "str" other.typeName)
  | _ => throw (.valueKind p.name "str" "non-text accumulator")

/-- Append a character to the text in a register. -/
def pushChar (p : Program) (text : ObjSlot) (c : Char) : Exec Unit := do
  match ← takeObj p text with
  | .str s => writeObj p text (.str (s.push c))
  | other => throw (.valueKind p.name "str" other.typeName)

/-- The fault for a number that is no code point. -/
def invalidCode (p : Program) (raw : Int) : EngineFault :=
  .scalarExpected p.name s!"invalid char code {raw}"

/-! ## Instructions -/

/-- Go on with the next instruction after an action. -/
def thenNext (act : Exec Unit) : Exec Control := do
  act
  return .next

/-- Do what one instruction says. -/
def execute (env : Environment) (p : Program) : Instruction → Exec Control
  | .jump target => goTo p target
  | .jumpIf cond a b target => do
    let a ← readInt p a
    let b ← match b with
      | .slot slot => readInt p slot
      | .imm n => pure n
    if cond.holds a b then goTo p target else return .next
  | .jumpIfObjEq a b target => do
    let a ← readObj p a
    let b ← readObj p b
    if a == b then goTo p target else return .next
  | .ret false => return .ret none
  | .ret true => do
    let result ← product p
    return .ret (some result)
  | .loadImm dst n => thenNext (writeInt p dst n)
  | .addImm dst n => thenNext do
    let current ← readInt p dst
    writeInt p dst (Word.wrap (current + n))
  | .savePos dst => thenNext do
    let pos ← position
    writeInt p dst (Word.clamp pos)
  | .restorePos src => thenNext do
    let pos ← readPosition p src
    seek env p pos
  | .peekChar dst => thenNext do
    match ← peekChar env with
    | some c => writeInt p dst c.toNat
    | none => writeInt p dst (-1)
  | .advance chars => thenNext do
    let pos ← position
    advanceTo (Text.skip env.text pos chars)
  | .loadConst dst index => thenNext do
    let v ← lookUp (p.valueConst index)
    writeObj p dst v
  | .construct dst ty => thenNext do
    match env.model.construct ty with
    | some v => writeObj p dst v
    | none => throw (.constructFailed p.name ty)
  | .setField obj field src => thenNext do
    let v ← takeObj p src
    let object ← takeObj p obj
    match env.model.writeSlot object field v with
    | .ok object => writeObj p obj object
    | .error e => throw (.slotWrite e)
  | .box dst src kind => thenNext do
    let raw ← readInt p src
    match kind.box? raw with
    | some v => writeObj p dst v
    | none => throw (invalidCode p raw)
  | .listNew dst => thenNext (writeObj p dst (.list #[]))
  | .listPush list item => thenNext do
    let item ← takeObj p item
    pushItem p list item
  | .textNew dst => thenNext (writeObj p dst (.str ""))
  | .textPush text item => thenNext do
    let item ← takeObj p item
    pushText p text item
  | .textPushChar text item => thenNext do
    let raw ← readInt p item
    match charOfCode? raw with
    | some c => pushChar p text c
    | none => throw (invalidCode p raw)
  | .slice dst start => thenNext do
    let start ← readPosition p start
    match Text.slice? env.text start (← position) with
    | some text => writeObj p dst (.str text)
    | none => throw (.badPosition p.name (Word.clamp start))
  | .invoke native args dst onFail => do
    match ← perform env p args native with
    | some v => thenNext (storeValue p dst v)
    | none => goTo p onFail
  | .call callee name dst onFail => do
    let callee ← lookUp (p.callee callee)
    return .call callee name dst onFail

end Packrat.Machine
