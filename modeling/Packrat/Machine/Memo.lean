import Std.Data.HashMap
import Packrat.Program.Basic
import Packrat.Text.Blank

/-!
# Memoization

Outcomes of concrete rules are remembered within one parse, by rule and position. In precise mode
the mask of active guarded rules at that position belongs to the key as well: a rule entered while
another one must not recur may fail where it would otherwise match, and that outcome must not be
used elsewhere.

* `MemoMode`: how outcomes are remembered; `MemoMode.ofText?` reads a mode.
* `MemoTable`: the outcomes remembered, by `MemoKey`.
-/

namespace Packrat

/-- How outcomes are remembered. -/
inductive MemoMode where
  /-- Not at all. -/
  | off
  /-- By rule, position and active guarded rules. -/
  | precise
  /-- By rule and position. -/
  | aggressive
  deriving Repr, DecidableEq

namespace MemoMode

/-- All modes in order. -/
def all : List MemoMode := [.off, .precise, .aggressive]

/-- The mode used unless another one is asked for. -/
def standard : MemoMode := .precise

/-- The name of a mode. -/
def name : MemoMode → String
  | .off => "off"
  | .precise => "precise"
  | .aggressive => "aggressive"

/-- The mode that a text names, in any case and with white space around it. -/
def ofText? (text : String) : Option MemoMode :=
  all.find? (fun mode => Text.eqIgnoringAsciiCase mode.name (Text.trimmed text))

/-- The wording for a text that names no mode. -/
def unknownMessage (text : String) : String :=
  s!"unknown memo mode `{text}` (expected off, precise or aggressive)"

end MemoMode

/-- What an outcome is remembered by. -/
structure MemoKey where
  /-- The rule. -/
  rule : RuleId
  /-- The position where it was entered. -/
  pos : Nat
  /-- The guarded rules that were active there, as a mask. -/
  mask : Nat
  deriving Repr, DecidableEq, Hashable

/-- A remembered outcome. -/
inductive MemoEntry where
  /-- The rule matched up to a position. -/
  | success (stop : Nat) (product : Product)
  /-- The rule did not match. -/
  | failure

/-- The outcomes remembered during one parse. -/
abbrev MemoTable := Std.HashMap MemoKey MemoEntry

end Packrat
