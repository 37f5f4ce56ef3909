import Packrat.Program.Basic
import Packrat.Text.Quoted

/-!
# Listings

The written form of programs: a heading, then each instruction on a line of its own with its
program counter, after the labels placed at it.

* `Instruction.display`: one instruction.
* `Program.listing`: a whole program.
* `Matcher.describe`: a matcher in one line.
-/

namespace Packrat

/-! ## Operands -/

/-- Integer registers are written with an `i`. -/
instance : ToString IntSlot := ⟨fun s => "i" ++ toString s.index⟩

/-- Object registers are written with an `o`. -/
instance : ToString ObjSlot := ⟨fun s => "o" ++ toString s.index⟩

/-- Registers are written with the letter of their bank. -/
instance : ToString Slot := ⟨fun | .int s => toString s | .obj s => toString s⟩

/-- Labels are written with an `L`. -/
instance : ToString Label := ⟨fun l => "L" ++ toString l.index⟩

/-- Constants are written with a `k`. -/
instance : ToString ConstIndex := ⟨fun k => "k" ++ toString k.index⟩

/-- Callees are written with an `r`. -/
instance : ToString CalleeIndex := ⟨fun r => "r" ++ toString r.index⟩

/-- Operands are written as registers or numbers. -/
instance : ToString Operand := ⟨fun | .slot s => toString s | .imm n => toString n⟩

/-- The sign of a comparison. -/
def Cond.symbol : Cond → String
  | .eq => "=="
  | .ne => "!="
  | .lt => "<"
  | .le => "<="
  | .gt => ">"
  | .ge => ">="

/-- The name of a kind of scalar. -/
def ScalarKind.display : ScalarKind → String
  | .char => "Char"
  | .int => "Int"

/-- The name of a kind of number. -/
def NumberKind.display : NumberKind → String
  | .integer => "Integer"
  | .float => "Float"
  | .any => "Any"

/-- An operation on the text. -/
def Native.display : Native → String
  | .matchRegex k => s!"match_regex[{k}]"
  | .parseNumber kind => "parse_number[" ++ kind.display ++ "]"
  | .takeChars => "take_chars"
  | .foldCase => "fold_case"
  | .userObject => "user_object"

/-! ## Instructions -/

/-- The register that receives a result, and an equals sign. -/
def receiver : Option Slot → String
  | some slot => s!"{slot} = "
  | none => ""

/-- One instruction. -/
def Instruction.display : Instruction → String
  | .jump target => s!"jump {target}"
  | .jumpIf cond a b target =>
    let symbol := cond.symbol
    s!"jump_if {a} {symbol} {b} -> {target}"
  | .jumpIfObjEq a b target => s!"jump_if_obj_eq {a} {b} -> {target}"
  | .ret success => if success then "return ok" else "return fail"
  | .loadImm dst value => s!"{dst} = {value}"
  | .addImm dst value => s!"{dst} += {value}"
  | .savePos dst => s!"{dst} = pos"
  | .restorePos src => s!"pos = {src}"
  | .peekChar dst => s!"{dst} = peek"
  | .advance chars => s!"advance {chars}"
  | .loadConst dst index => s!"{dst} = {index}"
  | .construct dst ty => s!"{dst} = new {ty}"
  | .setField obj field src => s!"{obj}.{field} = {src}"
  | .box dst src kind =>
    let kind := kind.display
    s!"{dst} = box[{kind}] {src}"
  | .listNew dst => s!"{dst} = []"
  | .listPush list item => s!"{list} push {item}"
  | .textNew dst => s!"{dst} = \"\""
  | .textPush text item => s!"{text} append {item}"
  | .textPushChar text item => s!"{text} append_char {item}"
  | .slice dst start => s!"{dst} = text[{start}..pos]"
  | .invoke operation args dst onFail =>
    let args := String.intercalate ", " (args.map toString)
    receiver dst ++ "invoke " ++ operation.display ++ s!"({args}) else {onFail}"
  | .call callee name dst onFail =>
    let role := match name with
      | some name => s!" as {name}"
      | none => ""
    receiver dst ++ s!"call {callee}{role} else {onFail}"

/-! ## Programs -/

/-- A number set right in a field of three characters. -/
def padded (n : Nat) : String :=
  let digits := toString n
  String.ofList (List.replicate (3 - digits.length) ' ') ++ digits

/-- The labels by the program counter at which they are placed, in order. -/
def Program.labelsByPlace (p : Program) : Array (List Nat) :=
  (p.labels.toList.zipIdx.reverse).foldl
    (fun table (place, label) =>
      match place with
      | some pc => table.modify pc (fun labels => label :: labels)
      | none => table)
    (Array.replicate p.code.size [])

/-- The lines of one instruction: the labels placed at it, then the instruction itself. -/
def instructionLines (labels : List Nat) (pc : Nat) (i : Instruction) : String :=
  let marks := labels.foldl (fun out label => out ++ s!"L{label}:\n") ""
  let text := i.display
  let place := padded pc
  marks ++ s!"  {place}: {text}\n"

/-- The guard in the heading of a listing. -/
def RecursionCheck.display : RecursionCheck → String
  | .none => ""
  | .bit index => s!" guard bit {index}"
  | .walk => " guard walk"

/-- The heading of a listing. -/
def Program.heading (p : Program) : String :=
  let name := p.name
  let rule := p.rule
  let output := p.output.display
  let ints := p.intSlots
  let objs := p.objSlots
  let result := match p.result with
    | some slot => s!" result {slot}"
    | none => ""
  s!"program {name} ({rule}) -> {output} [int {ints}, obj {objs}]{result}"
    ++ p.recursion.display ++ "\n"

/-- The listing of a program. -/
def Program.listing (p : Program) : String :=
  let places := p.labelsByPlace
  p.code.toList.zipIdx.foldl
    (fun out (i, pc) => out ++ instructionLines (places.getD pc []) pc i) p.heading

/-- A matcher in one line. -/
def Matcher.describe (m : Matcher) : String :=
  let rule := m.rule.index
  let name := Text.quotedText m.name
  let resolved := if m.isResolved then "true" else "false"
  s!"Matcher \x7b rule: RuleId({rule}), name: {name}, resolved: {resolved} \x7d"

end Packrat
