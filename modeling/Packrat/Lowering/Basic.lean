import Packrat.Grammar.Basic
import Packrat.Program.Assembler

/-!
# Lowering

Turning one rule into a program. Children are never inlined: each is reached by a call to its own
program, so that every rule keeps its identity at run time. The program of a rule does not depend
on the programs of its children; what lowering asks for is recorded as a list of requests, one
for each call emitted, in order.

The result of a rule lives in an integer register if its output type is a scalar and in an object
register otherwise. A call puts the callee's result into a register of the callee's own bank;
where an object is needed instead, the integer is boxed.

* `CompileError`: why a rule has no program.
* `Lower`: assembling that can fail and makes requests.
* `callVoid`, `callNatural`, `callObject`, `callInto`: the ways to call a child.
* `failTail`: the shared end of a run that fails.
-/

namespace Packrat

/-- Why a rule has no program. -/
inductive CompileError where
  /-- The rule, or one that it needs, is malformed. -/
  | grammar (error : GrammarError)
  /-- The compiler cannot number what the rule needs, or broke a promise. -/
  | fault (fault : EngineFault)
  deriving Repr, DecidableEq

/-- The wording of a compile error. -/
def CompileError.message : CompileError → String
  | .grammar e => e.message
  | .fault f => f.message

namespace Lowering

/-- What is known about the rule being lowered. -/
structure Context where
  /-- The grammar. -/
  grammar : Grammar
  /-- The object types. -/
  model : ObjectModel
  /-- The display name of the rule. -/
  name : String
  /-- The output type of the rule. -/
  output : OutputType

/-- Assembling that can fail and requests the programs of children. -/
abbrev Lower := ExceptT CompileError (StateT (Array RuleId) Assemble)

/-- Fail because the rule is malformed. -/
def reject (error : GrammarError) : Lower α :=
  throw (.grammar error)

/-- Ask for the program of a child. -/
def request (child : RuleId) : Lower Unit :=
  modify fun requests => requests.push child

/-! ## Calls -/

/-- Append a call to a child whose program is asked for already. -/
def callRule (child : RuleId) (name : Option String) (dst : Option Slot) (onFail : Label) :
    Assemble Unit :=
  Assemble.call child none name dst onFail

/-- Call a child for its match only. -/
def callVoid (child : RuleId) (name : Option String) (onFail : Label) : Lower Unit := do
  request child
  callRule child name none onFail

/-- Call a child into a fresh register of its own bank; none if it produces nothing. -/
def callNatural (cx : Context) (child : RuleId) (name : Option String) (onFail : Label) :
    Lower (Option Slot) := do
  request child
  let dst ← Assemble.slotFor (cx.grammar.outputOf child)
  callRule child name dst onFail
  return dst

/-- How an integer of the given type is boxed. -/
def scalarKind (ty : OutputType) : ScalarKind :=
  if ty = .char then .char else .int

/-- The object register with a result of the given type: a fresh one with the number boxed if the
result is in an integer register, and a fresh one with `null` if there is none. -/
def boxed (ty : OutputType) (result : Option Slot) : Assemble ObjSlot := do
  match result with
  | some (.obj obj) => return obj
  | some (.int raw) =>
    let obj ← Assemble.objSlot
    Assemble.emit (.box obj raw (scalarKind ty))
    return obj
  | none =>
    let obj ← Assemble.objSlot
    Assemble.loadValue obj .null
    return obj

/-- Call a child and leave its value in a fresh object register, `null` if it produces nothing. -/
def callObject (cx : Context) (child : RuleId) (name : Option String) (onFail : Label) :
    Lower ObjSlot := do
  let result ← callNatural cx child name onFail
  boxed (cx.grammar.outputOf child) result

/-- Call a child so that its value ends up in the given register, boxed if that is an object
register and the child produces a scalar. -/
def callInto (cx : Context) (child : RuleId) (dst : Option Slot) (onFail : Label) :
    Lower Unit := do
  let ty := cx.grammar.outputOf child
  match dst with
  | none => callVoid child none onFail
  | some (.int raw) =>
    if ty.isScalar then
      request child
      callRule child none (some (.int raw)) onFail
    else throw (.fault (.scalarExpected cx.name ty.display))
  | some (.obj obj) =>
    if ty.isVoid then
      callVoid child none onFail
      Assemble.loadValue obj .null
    else if ty.isScalar then
      request child
      let raw ← Assemble.intSlot
      callRule child none (some (.int raw)) onFail
      Assemble.emit (.box obj raw (scalarKind ty))
    else
      request child
      callRule child none (some (.obj obj)) onFail

/-! ## Ends of runs -/

/-- Go back to the kept position, if there is one. -/
def goBack (start : Option IntSlot) : Assemble Unit :=
  match start with
  | some start => Assemble.restorePos start
  | none => pure ()

/-- Fail at a label, back at the kept position if there is one. -/
def failTail (fail : Label) (start : Option IntSlot) : Assemble Unit := do
  Assemble.mark fail
  goBack start
  Assemble.ret false

/-- A fresh register for the result of the rule. -/
def resultSlot (cx : Context) : Assemble (Option Slot) :=
  Assemble.slotFor cx.output

end Lowering

end Packrat
