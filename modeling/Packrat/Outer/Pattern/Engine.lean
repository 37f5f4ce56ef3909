import Packrat.Outer.Pattern.Automaton
import Packrat.Outer.Pattern.Reader
import Packrat.Regex

/-!
# An engine for regular expressions

This is the outer layer: an engine to run the library with. The library takes its engine as a
parameter; no definition of the library uses this one and no theorem is about it. It knows the
common notation only, and of the Unicode properties the few that `CharSet.property?` lists.

* `compile`: the regular expression that a text is, unless it is none or too large.
* `engine`: the engine that compiles with it.
-/

namespace Packrat.Outer.Pattern

/-- Patterns whose automata would have more states than this are refused. -/
def maxStates : Nat := 300000

/-- The match at the start of a text. Matches further on are not looked for, and one that does not
end on a boundary does not count. -/
def Automaton.find (a : Automaton) (searched : String) : Option Regex.Match :=
  match a.matchAt searched 0 with
  | some stop => if Text.isBoundary searched stop then some ⟨0, stop⟩ else none
  | none => none

/-- A match found ends on a boundary, since it is checked to. -/
theorem Automaton.find_isBoundary (a : Automaton) (searched : String) (found : Regex.Match)
    (h : a.find searched = some found) : Text.isBoundary searched found.stop = true := by
  unfold find at h
  split at h
  · split at h
    · cases h
      assumption
    · cases h
  · cases h

/-- The regular expression of a pattern with a text. -/
def regexOf (text : String) (p : Pattern) : Regex :=
  ⟨text, (Automaton.ofPattern p).find, (Automaton.ofPattern p).find_isBoundary⟩

/-- The regular expression that a text is, or the reason why it is none. -/
def compile (text : String) : Except String Regex :=
  match readPattern? text with
  | none => .error "regex parse error"
  | some p =>
    if maxStates < p.size then .error "compiled regex exceeds size limit"
    else .ok (regexOf text p)

/-- The engine that compiles with `compile`. -/
abbrev engine : RegexEngine := ⟨compile⟩

end Packrat.Outer.Pattern
