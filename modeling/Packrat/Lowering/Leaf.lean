import Packrat.Lowering.Basic
import Packrat.Text.Case

/-!
# Lowering of leaves

The programs of rules without children. Those that fail after consuming something go back to where
they started.

* `literal`, `foldedLiteral`: a text, exactly or in any case.
* `charRange`, `charSet`: one character of a class.
* `regex`, `number`, `userObject`: one operation on the text.
* `whitespace`, `eol`, `eoi`, `location`: layout and places.
-/

namespace Packrat.Lowering

open Packrat.Assemble

/-- The code point of a character, as an integer register holds it. -/
def charCode (c : Char) : Int :=
  c.toNat

/-! ## Literals -/

/-- Compare the next character with each of the given ones in turn and consume it. -/
def literalChars (c : IntSlot) (fail : Label) : List Char → Assemble Unit
  | [] => pure ()
  | d :: rest => do
    emit (.peekChar c)
    jumpIf .ne c (charCode d) fail
    emit (.advance 1)
    literalChars c fail rest

/-- A text, character by character. -/
def exactLiteral (text : String) : Assemble (Option Slot) := do
  let start ← savePos
  let fail ← newLabel
  let c ← intSlot
  literalChars c fail text.toList
  let out ← objSlot
  loadValue out (.str text)
  ret true
  failTail fail (some start)
  return some (.obj out)

/-- A text in any case: as many characters as it has are taken, and their lower-case form is
compared with its own. The text as read is produced. -/
def foldedLiteral (text : String) : Assemble (Option Slot) := do
  let start ← savePos
  let fail ← newLabel
  let ok ← newLabel
  let count ← intSlot
  emit (.loadImm count text.length)
  let got ← objSlot
  invoke .takeChars [.int count] (some (.obj got)) fail
  let folded ← objSlot
  invoke .foldCase [.obj got] (some (.obj folded)) fail
  let want ← objSlot
  loadValue want (.str (Text.lowerCase text))
  emit (.jumpIfObjEq folded want ok)
  failTail fail (some start)
  mark ok
  ret true
  return some (.obj got)

/-- A literal, which must not be empty. -/
def literal (cx : Context) (text : String) (ignoreCase : Bool) : Lower (Option Slot) := do
  if text.isEmpty then reject (.emptyLiteral cx.name)
  else if ignoreCase then foldedLiteral text
  else exactLiteral text

/-! ## Character classes -/

/-- Go to `hit` if the character lies in one of the ranges. -/
def testRanges (c : IntSlot) (hit : Label) : List (Char × Char) → Assemble Unit
  | [] => pure ()
  | (lo, hi) :: rest => do
    let next ← newLabel
    jumpIf .lt c (charCode lo) next
    jumpIf .le c (charCode hi) hit
    mark next
    testRanges c hit rest

/-- Go to `hit` if the character is one of the given ones. -/
def testChars (c : IntSlot) (hit : Label) : List Char → Assemble Unit
  | [] => pure ()
  | d :: rest => do
    jumpIf .eq c (charCode d) hit
    testChars c hit rest

/-- The end of a test of a character that went to `hit` for members: a member is consumed, or, if
`negated`, anything else. -/
def takeMember (negated : Bool) (fail hit : Label) : Assemble Unit := do
  if negated then
    emit (.advance 1)
    ret true
    mark hit
  else
    jump fail
    mark hit
    emit (.advance 1)
    ret true

/-- One character, where `tests` goes to the label it is given if the character is a member. The
end of the text is never a member, nor an exception. The result is the character itself. -/
def charClass (negated : Bool) (tests : IntSlot → Label → Assemble Unit) :
    Assemble (Option Slot) := do
  let fail ← newLabel
  let hit ← newLabel
  let c ← intSlot
  emit (.peekChar c)
  jumpIf .lt c 0 fail
  tests c hit
  takeMember negated fail hit
  failTail fail none
  return some (.int c)

/-- One character inside, or outside, some ranges, the ends of which must be in order. -/
def charRange (cx : Context) (ranges : List (Char × Char)) (negated : Bool) :
    Lower (Option Slot) := do
  if ranges.isEmpty then reject (.emptyCharSet cx.name)
  else
    match ranges.find? (fun range => range.2 < range.1) with
    | some (lo, hi) => reject (.invalidCharRange cx.name lo hi)
    | none => charClass negated (fun c hit => testRanges c hit ranges)

/-- One character among, or not among, the given ones. -/
def charSet (cx : Context) (chars : List Char) (negated : Bool) : Lower (Option Slot) := do
  if chars.isEmpty then reject (.emptyCharSet cx.name)
  else charClass negated (fun c hit => testChars c hit chars)

/-! ## Operations on the text -/

/-- An operation without arguments that produces the result of the rule. -/
def native (cx : Context) (op : Native) : Assemble (Option Slot) := do
  let fail ← newLabel
  let out ← resultSlot cx
  invoke op [] out fail
  ret true
  failTail fail none
  return out

/-- A regular expression, compiled by the engine. -/
def regex [RegexEngine] (cx : Context) (pattern : String) : Lower (Option Slot) := do
  match RegexEngine.compile (Regex.anchored pattern) with
  | .error message => reject (.invalidRegex cx.name message)
  | .ok r =>
    let index ← regexConst r
    native cx (.matchRegex index)

/-- A number literal. -/
def number (cx : Context) (kind : NumberKind) : Assemble (Option Slot) :=
  native cx (.parseNumber kind)

/-- The object that the caller of the parse supplied. -/
def userObject (cx : Context) : Assemble (Option Slot) :=
  native cx .userObject

/-! ## Layout and places -/

/-- Any number of spaces, tabs, line feeds and carriage returns. -/
def whitespace : Assemble (Option Slot) := do
  let top ← newLabel
  let skip ← newLabel
  let c ← intSlot
  mark top
  emit (.peekChar c)
  testChars c skip [' ', '\t', '\n', '\r']
  ret true
  mark skip
  emit (.advance 1)
  jump top
  return none

/-- A line end of any kind, or the end of the text. -/
def eol : Assemble (Option Slot) := do
  let ok ← newLabel
  let lf ← newLabel
  let cr ← newLabel
  let c ← intSlot
  emit (.peekChar c)
  jumpIf .lt c 0 ok
  jumpIf .eq c (charCode '\n') lf
  jumpIf .eq c (charCode '\r') cr
  ret false
  mark lf
  emit (.advance 1)
  ret true
  mark cr
  emit (.advance 1)
  emit (.peekChar c)
  jumpIf .ne c (charCode '\n') ok
  emit (.advance 1)
  mark ok
  ret true
  return none

/-- The end of the text. -/
def eoi : Assemble (Option Slot) := do
  let fail ← newLabel
  let c ← intSlot
  emit (.peekChar c)
  jumpIf .ge c 0 fail
  ret true
  failTail fail none
  return none

/-- The current byte offset. -/
def location : Assemble (Option Slot) := do
  let here ← savePos
  ret true
  return some (.int here)

end Packrat.Lowering
