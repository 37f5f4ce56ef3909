import Packrat.Grammar.Rule
import Packrat.Value.Basic

/-!
# Instructions

The instruction set of rule programs. A program has integer registers for scalars, positions and
counters, and object registers for values.

* `IntSlot`, `ObjSlot`, `Slot`: registers of the two banks.
* `Label`, `ConstIndex`, `CalleeIndex`: places in a program's tables.
* `Native`: operations on the text that an instruction can invoke.
* `Instruction`: the instructions; `Instruction.target?` is where one may jump to.
-/

namespace Packrat

/-! ## Indices -/

/-- An integer register. -/
structure IntSlot where
  /-- Its number. -/
  index : Nat
  deriving Repr, DecidableEq

/-- An object register. -/
structure ObjSlot where
  /-- Its number. -/
  index : Nat
  deriving Repr, DecidableEq

/-- A register of either bank. -/
inductive Slot where
  /-- An integer register. -/
  | int (slot : IntSlot)
  /-- An object register. -/
  | obj (slot : ObjSlot)
  deriving Repr, DecidableEq

/-- A place to jump to. -/
structure Label where
  /-- Its number. -/
  index : Nat
  deriving Repr, DecidableEq

/-- An entry of a program's constant table. -/
structure ConstIndex where
  /-- Its number. -/
  index : Nat
  deriving Repr, DecidableEq

/-- An entry of a program's callee table. -/
structure CalleeIndex where
  /-- Its number. -/
  index : Nat
  deriving Repr, DecidableEq

/-! ## Operands -/

/-- A comparison of integers. -/
inductive Cond where
  /-- Equal. -/
  | eq
  /-- Different. -/
  | ne
  /-- Less. -/
  | lt
  /-- Less or equal. -/
  | le
  /-- Greater. -/
  | gt
  /-- Greater or equal. -/
  | ge
  deriving Repr, DecidableEq

/-- Whether a comparison holds. -/
def Cond.holds (a b : Int) : Cond → Bool
  | .eq => a = b
  | .ne => a ≠ b
  | .lt => a < b
  | .le => a ≤ b
  | .gt => b < a
  | .ge => b ≤ a

/-- The right-hand side of a comparison. -/
inductive Operand where
  /-- The content of a register. -/
  | slot (slot : IntSlot)
  /-- A number. -/
  | imm (value : Int)
  deriving Repr, DecidableEq

/-- What an integer register holds, when it becomes a value. -/
inductive ScalarKind where
  /-- The code point of a character. -/
  | char
  /-- A number. -/
  | int
  deriving Repr, DecidableEq

/-- The character with the given code point, if there is one. -/
def charOfCode? (code : Int) : Option Char :=
  if code < 0 then none
  else if h : code.toNat.isValidChar then some (Char.ofNatAux code.toNat h) else none

/-- The content of an integer register as a value; none for a number that is no code point. -/
def ScalarKind.box? (raw : Int) : ScalarKind → Option Value
  | .int => some (.int raw)
  | .char => (charOfCode? raw).map .char

/-- An operation on the text at the current position. -/
inductive Native where
  /-- Match a regular expression of the constant table; produces the text. -/
  | matchRegex (index : ConstIndex)
  /-- Read a number literal; produces an integer or a float. -/
  | parseNumber (kind : NumberKind)
  /-- Consume as many characters as the argument says; produces the text. -/
  | takeChars
  /-- Lower-case the argument; consumes nothing. -/
  | foldCase
  /-- Produce the object that the caller of the parse supplied. -/
  | userObject
  deriving Repr, DecidableEq

/-- How many arguments an operation takes. -/
def Native.arity : Native → Nat
  | .takeChars | .foldCase => 1
  | .matchRegex _ | .parseNumber _ | .userObject => 0

/-! ## Instructions -/

/-- One instruction of a rule program. -/
inductive Instruction where
  /-- Go to a label. -/
  | jump (target : Label)
  /-- Go to a label if a comparison holds. -/
  | jumpIf (cond : Cond) (a : IntSlot) (b : Operand) (target : Label)
  /-- Go to a label if two object registers hold equal values. -/
  | jumpIfObjEq (a b : ObjSlot) (target : Label)
  /-- Leave the program, with the content of its result register on success. -/
  | ret (success : Bool)
  /-- Set an integer register. -/
  | loadImm (dst : IntSlot) (value : Int)
  /-- Add to an integer register, modulo the word size. -/
  | addImm (dst : IntSlot) (value : Int)
  /-- Keep the position in a register. -/
  | savePos (dst : IntSlot)
  /-- Go back to the position in a register. -/
  | restorePos (src : IntSlot)
  /-- Load the code point of the next character, or `-1` at the end of the text. -/
  | peekChar (dst : IntSlot)
  /-- Move forward by some characters. -/
  | advance (chars : Nat)
  /-- Load a value of the constant table. -/
  | loadConst (dst : ObjSlot) (index : ConstIndex)
  /-- Make an empty object of a type. -/
  | construct (dst : ObjSlot) (ty : String)
  /-- Write a field of an object; the source register is left empty. -/
  | setField (obj : ObjSlot) (field : String) (src : ObjSlot)
  /-- Make a value of the content of an integer register. -/
  | box (dst : ObjSlot) (src : IntSlot) (kind : ScalarKind)
  /-- Start a list. -/
  | listNew (dst : ObjSlot)
  /-- Append to a list; the item's register is left empty. -/
  | listPush (list item : ObjSlot)
  /-- Start a text. -/
  | textNew (dst : ObjSlot)
  /-- Append a text or a character to a text; the item's register is left empty. -/
  | textPush (text item : ObjSlot)
  /-- Append the character with a code point to a text. -/
  | textPushChar (text : ObjSlot) (item : IntSlot)
  /-- The input from a kept position to the current one. -/
  | slice (dst : ObjSlot) (start : IntSlot)
  /-- Perform an operation on the text; on failure go to a label. -/
  | invoke (native : Native) (args : List Slot) (dst : Option Slot) (onFail : Label)
  /-- Match another rule; on failure go to a label. The name is that of the slot being filled. -/
  | call (callee : CalleeIndex) (name : Option String) (dst : Option Slot) (onFail : Label)
  deriving Repr, DecidableEq

/-- The label that an instruction may go to. -/
def Instruction.target? : Instruction → Option Label
  | .jump target | .jumpIf _ _ _ target | .jumpIfObjEq _ _ target => some target
  | .invoke _ _ _ onFail | .call _ _ _ onFail => some onFail
  | _ => none

end Packrat
