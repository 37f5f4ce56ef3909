import Packrat.Value.Basic

/-!
# Conversions of values

Reading a value as a number, a text, an optional value, a list and so on. A conversion is a
function `Value → Except ConversionError α`; `Value.toOptional` and `Value.toItems` build one from
another.

* `ConversionError.message`: the wording of a refused conversion.
-/

namespace Packrat

/-- A value that does not have the shape asked for. -/
structure ConversionError where
  /-- The shape asked for. -/
  expected : String
  /-- The kind of the value found. -/
  found : String
  deriving Repr, DecidableEq

/-- The wording of a refused conversion. -/
def ConversionError.message (e : ConversionError) : String :=
  "cannot convert " ++ e.found ++ " value to " ++ e.expected

namespace Value

/-- What an accessor finds, or the refusal that names the shape it looks for. -/
def expect (expected : String) (found : Value → Option α) (v : Value) :
    Except ConversionError α :=
  match found v with
  | some a => .ok a
  | none => .error ⟨expected, v.typeName⟩

/-- An integer. -/
def toInt : Value → Except ConversionError Int :=
  expect "i64" asInt?

/-- A float, or an integer as a float. -/
def toFloat : Value → Except ConversionError Float :=
  expect "f64" asFloat?

/-- A character. -/
def toChar : Value → Except ConversionError Char :=
  expect "char" asChar?

/-- A truth value. -/
def toBool : Value → Except ConversionError Bool :=
  expect "bool" asBool?

/-- A text, or a character as a text of its own. -/
def toText : Value → Except ConversionError String
  | .str s => .ok s
  | .char c => .ok (String.singleton c)
  | other => .error ⟨"String", other.typeName⟩

/-- A node: its type name and fields. -/
def toNode : Value → Except ConversionError (String × Fields) :=
  expect "Node" asNode?

/-- Nothing for `null`, and what `convert` makes of any other value. -/
def toOptional (convert : Value → Except ConversionError α) :
    Value → Except ConversionError (Option α)
  | .null => .ok none
  | other => (convert other).map some

/-- The items of a list, each converted; the first refusal wins. -/
def toItems (convert : Value → Except ConversionError α) :
    Value → Except ConversionError (Array α)
  | .list items => items.mapM convert
  | other => .error ⟨"Vec", other.typeName⟩

end Value

end Packrat
