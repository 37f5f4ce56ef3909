import Packrat.Text.Cursor

/-!
# Regular expressions

Regular expressions are compiled and searched for by an engine outside the library. The model takes
it as a parameter: whatever uses regular expressions holds for every engine.

* `Regex`: a compiled regular expression, by the search it stands for. The one thing relied on is
  `Regex.find_isBoundary`: a match ends on a boundary of the text searched.
* `RegexEngine`: the engine; a text is compiled to a regular expression or to a message that says
  why it is none.
* `Regex.anchored`: the regular expression that a rule gives to the engine.
* `Regex.matchAt`: where the match that starts at a place ends.
-/

namespace Packrat

/-- A match of a regular expression in a text. -/
structure Regex.Match where
  /-- The byte offset at which it starts. -/
  start : Nat
  /-- The byte offset behind it. -/
  stop : Nat
  deriving Repr, DecidableEq

/-- A compiled regular expression. -/
structure Regex where
  /-- Its text, with its anchor if it has one. -/
  text : String
  /-- The leftmost match in a text. -/
  find : String → Option Regex.Match
  /-- A match ends on a boundary of the text. -/
  find_isBoundary : ∀ searched found, find searched = some found →
    Text.isBoundary searched found.stop = true

/-- An engine for regular expressions. -/
class RegexEngine where
  /-- The regular expression that a text is, or the message that says why it is none. -/
  compile : String → Except String Regex

namespace Regex

/-- The text of a rule's pattern, anchored at its start. The pattern is read together with the
group around it, so a parenthesis in it may close that group. -/
def anchored (pattern : String) : String :=
  "^(?:" ++ pattern ++ ")"

/-- Where the match that starts at a place ends. The search sees the text from that place on only;
a match that starts further on does not count. -/
def matchAt (r : Regex) (text : String) (pos : Nat) : Option Nat :=
  match r.find (Text.remainder text pos) with
  | some found => if found.start = 0 then some (pos + found.stop) else none
  | none => none

end Regex

end Packrat
