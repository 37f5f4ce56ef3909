import Packrat.Grammar.Rule

/-!
# Output types

The type of value that a rule produces. Types form an order with `Int` and `Float` below
`Number`, everything below `Any`, and nothing else comparable.

* `OutputType.join`: the least upper bound of two types.
* `OutputType.optional`: the type of an optional occurrence.
-/

namespace Packrat

/-- The type of value that a rule produces. -/
inductive OutputType where
  /-- No value. -/
  | void
  /-- A character. -/
  | char
  /-- An integer. -/
  | int
  /-- A float. -/
  | float
  /-- An integer or a float. -/
  | number
  /-- A text. -/
  | text
  /-- A list. -/
  | list
  /-- An object of the named type or of one that implements it. -/
  | object (ty : String)
  /-- Any value. -/
  | any
  deriving Repr, DecidableEq

namespace OutputType

/-- Whether values of the type live in integer registers. -/
def isScalar : OutputType → Bool
  | .char | .int => true
  | _ => false

/-- Whether the type has no values. -/
def isVoid : OutputType → Bool
  | .void => true
  | _ => false

/-- Whether values of the type are numbers. -/
def isNumeric : OutputType → Bool
  | .int | .float | .number => true
  | _ => false

/-- The least type above two types. -/
def join (a b : OutputType) : OutputType :=
  if a = b then a
  else if a.isNumeric && b.isNumeric then .number
  else .any

/-- The type of an optional occurrence: where absence has no value of the type to stand for it,
the type widens to `any`. -/
def optional : OutputType → OutputType
  | .void => .void
  | .text => .text
  | .list => .list
  | .object ty => .object ty
  | .char | .int | .float | .number | .any => .any

/-- The type in words. -/
def display : OutputType → String
  | .void => "void"
  | .char => "char"
  | .int => "int"
  | .float => "float"
  | .number => "number"
  | .text => "text"
  | .list => "list"
  | .object ty => "object `" ++ ty ++ "`"
  | .any => "any"

end OutputType

end Packrat
