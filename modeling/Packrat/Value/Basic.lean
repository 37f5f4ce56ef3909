/-!
# Values

What matching a rule produces: scalars, texts, lists, and nodes with named fields.

* `Value`: the type of values, with the equality that programs compare by.
* `Fields.get?`, `Fields.set`: the fields of a node, kept in the order of their first writing.
* `Value.typeName` and the accessors `asInt?`, `asFloat?`, ….

Integers are those of a signed 64-bit word; every producer of integers stays in that range.
-/

namespace Packrat

/-- A value produced by matching a rule. -/
inductive Value where
  /-- Nothing: an optional part that is absent, or a field not yet written. -/
  | null
  /-- A truth value. -/
  | bool (b : Bool)
  /-- One character. -/
  | char (c : Char)
  /-- A signed 64-bit integer. -/
  | int (n : Int)
  /-- A double-precision number. -/
  | float (x : Float)
  /-- A text. -/
  | str (s : String)
  /-- A list of values. -/
  | list (items : Array Value)
  /-- An object of a named type, with its fields in the order of their first writing. -/
  | node (ty : String) (fields : Array (String × Value))
  deriving Inhabited

/-- Named values in the order of their first writing. -/
abbrev Fields := Array (String × Value)

/-! ## Fields -/

namespace Fields

/-- The value of the field with the given name. -/
def get? (fields : Fields) (name : String) : Option Value :=
  (fields.find? (fun field => field.1 == name)).map Prod.snd

/-- Write a field: an earlier value of the same name is replaced in its place, a new name comes
last. -/
def set (fields : Fields) (name : String) (value : Value) : Fields :=
  match fields.findIdx? (fun field => field.1 == name) with
  | some i => fields.setIfInBounds i (name, value)
  | none => fields.push (name, value)

end Fields

/-! ## Equality -/

namespace Value

mutual

/-- Equality of values. Numbers compare as numbers do, so a float that is not a number differs
from itself and the two zeros are equal; fields compare in their order. -/
def beq : Value → Value → Bool
  | .null, .null => true
  | .bool a, .bool b => a == b
  | .char a, .char b => a == b
  | .int a, .int b => a == b
  | .float a, .float b => a == b
  | .str a, .str b => a == b
  | .list ⟨as⟩, .list ⟨bs⟩ => beqItems as bs
  | .node s ⟨as⟩, .node t ⟨bs⟩ => s == t && beqFields as bs
  | _, _ => false

/-- Equality of lists of values, item by item. -/
def beqItems : List Value → List Value → Bool
  | [], [] => true
  | a :: as, b :: bs => beq a b && beqItems as bs
  | _, _ => false

/-- Equality of lists of fields, name by name and value by value. -/
def beqFields : List (String × Value) → List (String × Value) → Bool
  | [], [] => true
  | (m, a) :: as, (n, b) :: bs => m == n && (beq a b && beqFields as bs)
  | _, _ => false

end

instance : BEq Value := ⟨beq⟩

/-! ## Accessors -/

/-- The name of the kind of a value, as errors give it. -/
def typeName : Value → String
  | .null => "null"
  | .bool _ => "bool"
  | .char _ => "char"
  | .int _ => "int"
  | .float _ => "float"
  | .str _ => "str"
  | .list _ => "list"
  | .node _ _ => "node"

/-- Whether the value is `null`. -/
def isNull : Value → Bool
  | .null => true
  | _ => false

/-- The text of a text value. -/
def asStr? : Value → Option String
  | .str s => some s
  | _ => none

/-- The number of an integer value. -/
def asInt? : Value → Option Int
  | .int n => some n
  | _ => none

/-- The number of a float or integer value; integers go to the nearest double. -/
def asFloat? : Value → Option Float
  | .float x => some x
  | .int n => some (Float.ofInt n)
  | _ => none

/-- The character of a character value. -/
def asChar? : Value → Option Char
  | .char c => some c
  | _ => none

/-- The truth value of a boolean value. -/
def asBool? : Value → Option Bool
  | .bool b => some b
  | _ => none

/-- The items of a list value. -/
def asList? : Value → Option (Array Value)
  | .list items => some items
  | _ => none

/-- The type name and fields of a node. -/
def asNode? : Value → Option (String × Fields)
  | .node ty fields => some (ty, fields)
  | _ => none

end Value

end Packrat
