import Packrat.Lowering.Basic

/-!
# Lowering of composite rules

The programs of rules with children. Each saves the position where it starts and goes back to it
where it fails; a child that fails has gone back already, so only what earlier children consumed
has to be undone.

* `sequence`: parts in order, with an object built from the named ones.
* `alternative`: candidates in order; the first that matches wins.
* `repetition`: an element again and again.
* `optional`, `lookAhead`, `notAhead`, `surround`, `capture`: one or a few children.
-/

namespace Packrat.Lowering

open Packrat.Assemble

/-! ## Sequences -/

/-- Check the named parts of a sequence against the type's slots, part by part. -/
def checkParts (cx : Context) (ty : Option (String × List String)) :
    List Part → Except GrammarError Unit
  | [] => .ok ()
  | ⟨none, _⟩ :: rest => checkParts cx ty rest
  | ⟨some slot, rule⟩ :: rest =>
    match ty with
    | none => .error (.untypedNamedPart cx.name slot)
    | some (ty, slots) =>
      if !slots.contains slot then .error (.unknownSlot cx.name ty slot)
      else if (cx.grammar.outputOf rule).isVoid then .error (.voidSlot cx.name slot)
      else checkParts cx (some (ty, slots)) rest

/-- Check the type of a sequence, then its named parts. -/
def checkSequence (cx : Context) (ty : Option String) (parts : List Part) :
    Except GrammarError Unit :=
  match ty with
  | none => checkParts cx none parts
  | some ty =>
    match cx.model.slots ty with
    | none => .error (.unknownType cx.name ty)
    | some slots =>
      if cx.model.isConcrete ty then checkParts cx (some (ty, slots)) parts
      else .error (.abstractType cx.name ty)

/-- Match one part; a named one writes its field of the object. -/
def sequencePart (cx : Context) (obj : Option ObjSlot) (fail : Label) (part : Part) :
    Lower Unit := do
  match part.name, obj with
  | some field, some obj =>
    let src ← callObject cx part.rule (some field) fail
    emit (.setField obj field src)
  | name, _ => callVoid part.rule name fail

/-- Match the separator unless the part after it is the first. -/
def separate (separator : Option RuleId) (fail : Label) (first : Bool) : Lower Unit :=
  match separator, first with
  | some separator, false => callVoid separator none fail
  | _, _ => pure ()

/-- Match parts in order, each after the separator unless it is the first. -/
def sequenceParts (cx : Context) (separator : Option RuleId) (obj : Option ObjSlot)
    (fail : Label) (first : Bool) : List Part → Lower Unit
  | [] => pure ()
  | part :: rest => do
    separate separator fail first
    sequencePart cx obj fail part
    sequenceParts cx separator obj fail false rest

/-- A register with an empty object of a type; none if there is no type. -/
def emptyObject (ty : Option String) : Assemble (Option ObjSlot) := do
  match ty with
  | some ty =>
    let dst ← objSlot
    emit (.construct dst ty)
    return some dst
  | none => return none

/-- Parts in order. A typed sequence makes its object first and writes each named part into it as
soon as it is matched. -/
def sequence (cx : Context) (ty : Option String) (parts : List Part)
    (separator : Option RuleId) : Lower (Option Slot) := do
  match checkSequence cx ty parts with
  | .error e => reject e
  | .ok () =>
    let start ← savePos
    let fail ← newLabel
    let obj ← emptyObject ty
    sequenceParts cx separator obj fail true parts
    ret true
    failTail fail (some start)
    return obj.map .obj

/-! ## Alternatives -/

/-- Whether a rule is an alternative with a base of its own. -/
def isBasedAlternative (cx : Context) (id : RuleId) : Bool :=
  match (cx.grammar.get? id).map RuleDef.rule with
  | some (.alternative (some _) _) => true
  | _ => false

/-- Whether a candidate produces an object of a concrete type that implements the base. A nested
alternative with a base of its own is accepted too, since its candidates are checked with it. -/
def acceptsCandidate (cx : Context) (base : String) (candidate : RuleId) : Bool :=
  match cx.grammar.outputOf candidate with
  | .object ty =>
    cx.model.implements ty base &&
      (isBasedAlternative cx candidate || cx.model.isConcrete ty)
  | _ => false

/-- Check an alternative: it has candidates, and they fit the base if there is one. -/
def checkAlternative (cx : Context) (base : Option String) (candidates : List RuleId) :
    Except GrammarError Unit :=
  if candidates.isEmpty then .error (.emptyAlternative cx.name)
  else
    match base with
    | none => .ok ()
    | some base =>
      if (cx.model.slots base).isNone then .error (.unknownType cx.name base)
      else
        match candidates.find? (fun c => !acceptsCandidate cx base c) with
        | some c => .error (.notAnImplementer cx.name (cx.grammar.displayName c) base)
        | none => .ok ()

/-- Try candidates in order; the first that matches goes on at `done`. -/
def tryCandidates (cx : Context) (result : Option Slot) (done : Label) :
    List RuleId → Lower Unit
  | [] => pure ()
  | candidate :: rest => do
    let next ← newLabel
    callInto cx candidate result next
    jump done
    mark next
    tryCandidates cx result done rest

/-- Candidates in order from the same position. -/
def alternative (cx : Context) (base : Option String) (candidates : List RuleId) :
    Lower (Option Slot) := do
  match checkAlternative cx base candidates with
  | .error e => reject e
  | .ok () =>
    let result ← resultSlot cx
    let done ← newLabel
    tryCandidates cx result done candidates
    ret false
    mark done
    ret true
    return result

/-! ## Repetitions -/

/-- Check a repetition: its bounds are in order, and elements gathered as text produce text. -/
def checkRepetition (cx : Context) (element : RuleId) (min : Nat) (max : Option Nat)
    (collect : Collect) : Except GrammarError Unit :=
  match max with
  | some bound =>
    if bound < min then .error (.invalidRepeatBounds cx.name min bound) else checkElement
  | none => checkElement
where
  /-- Elements gathered as text produce texts or characters. -/
  checkElement : Except GrammarError Unit :=
    let ty := cx.grammar.outputOf element
    if collect = .text ∧ ty ≠ .text ∧ ty ≠ .char then
      .error (.textRepeatElement cx.name ty.display)
    else .ok ()

/-- The register in which elements are gathered, set up as an empty text or list; none if there is
nothing to gather. -/
def accumulator (cx : Context) (element : RuleId) (collect : Collect) :
    Assemble (Option ObjSlot) := do
  match collect with
  | .text =>
    let dst ← objSlot
    emit (.textNew dst)
    return some dst
  | .list =>
    if (cx.grammar.outputOf element).isVoid then return none
    else
      let dst ← objSlot
      emit (.listNew dst)
      return some dst

/-- Append the text or character in a register, if there is one, to a text. -/
def appendText (text : ObjSlot) (item : Option Slot) : Assemble Unit :=
  match item with
  | some (.int item) => emit (.textPushChar text item)
  | some (.obj item) => emit (.textPush text item)
  | none => pure ()

/-- Match one element and gather its value. -/
def gatherElement (cx : Context) (element : RuleId) (collect : Collect)
    (acc : Option ObjSlot) (rollback : Label) : Lower Unit := do
  match collect, acc with
  | .text, some text =>
    let item ← callNatural cx element none rollback
    appendText text item
  | _, some list =>
    let item ← callObject cx element none rollback
    emit (.listPush list item)
  | _, none => callVoid element none rollback

/-- Stop at the greatest number of elements, if there is one. -/
def testGreatest (count : IntSlot) (max : Option Nat) (done : Label) : Assemble Unit :=
  match max with
  | some bound => jumpIf .ge count bound done
  | none => pure ()

/-- Match the separator, if there is one, unless no element is matched yet. -/
def separateElement (count : IntSlot) (separator : Option RuleId) (first done : Label) :
    Lower Unit := do
  match separator with
  | some separator =>
    jumpIf .eq count 0 first
    callVoid separator none done
  | none => pure ()

/-- Fail below the least number of elements, unless there is none. -/
def testLeast (count : IntSlot) (min : Nat) (fail : Label) : Assemble Unit :=
  if 0 < min then jumpIf .lt count min fail else pure ()

/-- An element again and again, with a separator before each but the first, until the greatest
number is reached, the next one does not match, or one consumes nothing. A separator that no
element follows is given back. A round that consumes nothing ends the repetition with success
whatever the least number is, since it would recur for ever. -/
def repetition (cx : Context) (element : RuleId) (separator : Option RuleId) (min : Nat)
    (max : Option Nat) (collect : Collect) : Lower (Option Slot) := do
  match checkRepetition cx element min max collect with
  | .error e => reject e
  | .ok () =>
    let start ← savePos
    let fail ← newLabel
    let top ← newLabel
    let first ← newLabel
    let rollback ← newLabel
    let done ← newLabel
    let accept ← newLabel
    let count ← intSlot
    emit (.loadImm count 0)
    let acc ← accumulator cx element collect
    mark top
    testGreatest count max done
    let iter ← savePos
    separateElement count separator first done
    mark first
    gatherElement cx element collect acc rollback
    emit (.addImm count 1)
    let after ← savePos
    jumpIfSlot .eq after iter accept
    jump top
    mark rollback
    restorePos iter
    mark done
    testLeast count min fail
    mark accept
    ret true
    failTail fail (some start)
    return acc.map .obj

/-! ## Other composites -/

/-- The value that stands for an absent child in the result register, if that takes values. -/
def loadAbsent (output : OutputType) (result : Option Slot) : Assemble Unit :=
  match result, output with
  | some (.obj dst), .text => loadValue dst (.str "")
  | some (.obj dst), .list => emit (.listNew dst)
  | some (.obj dst), _ => loadValue dst .null
  | _, _ => pure ()

/-- A child or nothing. -/
def optional (cx : Context) (child : RuleId) : Lower (Option Slot) := do
  let result ← resultSlot cx
  let absent ← newLabel
  let done ← newLabel
  callInto cx child result absent
  jump done
  mark absent
  loadAbsent cx.output result
  mark done
  ret true
  return result

/-- That a child matches, without consuming anything. -/
def lookAhead (child : RuleId) : Lower (Option Slot) := do
  let start ← savePos
  let fail ← newLabel
  callVoid child none fail
  restorePos start
  ret true
  failTail fail none
  return none

/-- That a child does not match. -/
def notAhead (child : RuleId) : Lower (Option Slot) := do
  let start ← savePos
  let ok ← newLabel
  callVoid child none ok
  restorePos start
  ret false
  mark ok
  ret true
  return none

/-- An inner rule between an opening and a closing one; the opening one also closes if there is no
other. -/
def surround (cx : Context) (opening inner : RuleId) (closing : Option RuleId) :
    Lower (Option Slot) := do
  let start ← savePos
  let fail ← newLabel
  let result ← resultSlot cx
  callVoid opening none fail
  callInto cx inner result fail
  callVoid (closing.getD opening) none fail
  ret true
  failTail fail (some start)
  return result

/-- The text that a child consumes. -/
def capture (child : RuleId) : Lower (Option Slot) := do
  let start ← savePos
  let fail ← newLabel
  callVoid child none fail
  let out ← objSlot
  emit (.slice out start)
  ret true
  failTail fail none
  return some (.obj out)

end Packrat.Lowering
