import Packrat.Value.Basic
import Packrat.Number.Notation
import Packrat.Text.Quoted

/-!
# Values as text

* `Value.display`: the one-line form of a value for people. Texts and characters are quoted, lists
  stand in brackets, and a node is its type name followed by its fields in braces.
-/

namespace Packrat.Value

mutual

/-- Write a value after the text `out`. -/
def displayAfter (out : String) : Value → String
  | .null => out ++ "null"
  | .bool b => out ++ (if b then "true" else "false")
  | .char c => out ++ Text.quotedChar c
  | .int n => out ++ toString n
  | .float x => out ++ Number.showFloat x
  | .str s => out ++ Text.quotedText s
  | .list ⟨items⟩ => displayItems (out ++ "[") "" items ++ "]"
  | .node ty ⟨fields⟩ => displayFields (out ++ ty ++ " \x7b") " " fields ++ " \x7d"

/-- Write list items after the text `out`; `gap` stands before the first of them. -/
def displayItems (out gap : String) : List Value → String
  | [] => out
  | item :: rest => displayItems (displayAfter (out ++ gap) item) ", " rest

/-- Write fields after the text `out`; `gap` stands before the first of them. -/
def displayFields (out gap : String) : List (String × Value) → String
  | [] => out
  | (name, value) :: rest =>
    displayFields (displayAfter (out ++ gap ++ name ++ ": ") value) ", " rest

end

/-- The one-line form of a value. -/
def display (v : Value) : String :=
  displayAfter "" v

end Packrat.Value
