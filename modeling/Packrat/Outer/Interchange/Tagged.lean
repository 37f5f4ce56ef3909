import Packrat.Grammar.Rule
import Packrat.Outer.Interchange.Document
import Packrat.Number.Notation
import Packrat.Value.Basic

/-!
# Tagged form of values

The JSON text of a value is an object whose only member names the kind of the value and holds its
content; `null` is written as the string `"Null"` alone. A node holds its type name and its fields
as an array of pairs, so that repeated names and the order of fields are kept.

This is the outer layer: values are exchanged with other programs in this form. No definition of
the library uses it and no theorem is about it.

* `Value.toTagged`: the text of a value. Floats that are not finite are written as `null`, which
  does not read back.
* `Value.ofTagged?`: the value of a text. The tree of a value may be nested 127 levels deep.
* `RuleId.ofText?`: a rule identity written as a number.
-/

namespace Packrat.Outer.Interchange

/-! ## Writing -/

/-- A float as it is written. -/
def floatText (x : Float) : String :=
  (Number.Layout.interchange.write x).getD "null"

mutual

/-- Write a value after the text `out`. -/
def writeAfter (out : String) : Value → String
  | .null => out ++ "\"Null\""
  | .bool b => out ++ "\x7b\"Bool\":" ++ (if b then "true" else "false") ++ "\x7d"
  | .char c => out ++ "\x7b\"Char\":" ++ quoted (String.singleton c) ++ "\x7d"
  | .int n => out ++ "\x7b\"Int\":" ++ toString n ++ "\x7d"
  | .float x => out ++ "\x7b\"Float\":" ++ floatText x ++ "\x7d"
  | .str s => out ++ "\x7b\"Str\":" ++ quoted s ++ "\x7d"
  | .list ⟨items⟩ => writeItems (out ++ "\x7b\"List\":[") "" items ++ "]\x7d"
  | .node ty ⟨fields⟩ =>
    writeFields (out ++ "\x7b\"Node\":\x7b\"ty\":" ++ quoted ty ++ ",\"fields\":[") "" fields
      ++ "]\x7d\x7d"

/-- Write list items after the text `out`; `gap` stands before the first of them. -/
def writeItems (out gap : String) : List Value → String
  | [] => out
  | item :: rest => writeItems (writeAfter (out ++ gap) item) "," rest

/-- Write fields after the text `out`; `gap` stands before the first of them. -/
def writeFields (out gap : String) : List (String × Value) → String
  | [] => out
  | (name, value) :: rest =>
    writeFields (writeAfter (out ++ gap ++ "[" ++ quoted name ++ ",") value ++ "]") "," rest

end

/-! ## Reading -/

/-- How deep a tree may be nested: an array or an object at the greatest depth is refused. -/
def maxDepth : Nat := 128

/-- A text that consists of one character. -/
def onlyChar? (s : String) : Option Char :=
  match s.toList with
  | [c] => some c
  | _ => none

/-- The content of the member with the given name, if there is exactly one. -/
def onlyMember? (name : String) (members : List (Option String × Document)) : Option Document :=
  match members.filter (fun member => member.1 == some name) with
  | [member] => some member.2
  | _ => none

/-- The type name and the fields of a node: members of an object, or the two items of an array.
Other members of the object are passed over, but all names must be proper texts. -/
def nodeParts? : Document → Option (Document × Document)
  | .array [ty, fields] => some (ty, fields)
  | .object members =>
    if members.all (fun member => member.1.isSome) then do
      let ty ← onlyMember? "ty" members
      let fields ← onlyMember? "fields" members
      return (ty, fields)
    else none
  | _ => none

/-- The value that a tag and its content stand for. Contents that are values themselves are read
by `read`, fields by `readField`. -/
def ofTag? (read : Document → Option Value) (readField : Document → Option (String × Value))
    (tag : String) (content : Document) : Option Value :=
  match tag, content with
  | "Null", .null => some .null
  | "Bool", .bool b => some (.bool b)
  | "Char", .string (some s) => (onlyChar? s).map .char
  | "Int", .number n => n.toInt?.map .int
  | "Float", .number n => n.toFloat?.map .float
  | "Str", .string (some s) => some (.str s)
  | "List", .array items => (items.mapM read).map fun items => .list items.toArray
  | "Node", parts =>
    match nodeParts? parts with
    | some (.string (some ty), .array fields) =>
      (fields.mapM readField).map fun fields => .node ty fields.toArray
    | _ => none
  | _, _ => none

/-- The value of a tree at some depth. The object of the value is one level deep, a list one more,
and a field of a node three more: the node itself, its fields, and the pair. -/
def ofDocument? : (levels depth : Nat) → Document → Option Value
  | 0, _, _ => none
  | _ + 1, _, .string (some "Null") => some .null
  | levels + 1, depth, .object [(some tag, content)] =>
    let innermost := match tag with
      | "List" => depth + 2
      | "Node" => depth + 3
      | _ => depth + 1
    if maxDepth ≤ innermost then none
    else
      ofTag? (ofDocument? levels innermost)
        (fun
          | .array [.string (some name), value] =>
            if maxDepth ≤ innermost + 1 then none
            else (ofDocument? levels (innermost + 1) value).map fun value => (name, value)
          | _ => none)
        tag content
  | _ + 1, _, _ => none

end Packrat.Outer.Interchange

namespace Packrat

open Outer

/-- The tagged form of a value. -/
def Value.toTagged (v : Value) : String :=
  Interchange.writeAfter "" v

/-- The value of a text in tagged form. -/
def Value.ofTagged? (text : String) : Option Value :=
  (Interchange.Document.read? text).bind (Interchange.ofDocument? Interchange.maxDepth 0)

/-- The greatest index of a rule that is read from a text. -/
def RuleId.maxIndex : Nat := UInt32.size - 1

/-- The rule identity that a JSON text gives as a plain number. -/
def RuleId.ofText? (text : String) : Option RuleId :=
  match Interchange.Document.read? text with
  | some (.number n) =>
    match n.toNat? with
    | some index => if index ≤ maxIndex then some ⟨index⟩ else none
    | none => none
  | _ => none

end Packrat
