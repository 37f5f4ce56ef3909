import Packrat.Machine.Memo

/-!
# Parse states

The state of one parse apart from the registers of running programs.

* `Cursor`: the position, and how far the text was examined.
* `Guard`: the guarded rules active at the innermost position where one was entered, as a mask.
  Positions never decrease from a call to the calls below it, so no other position matters.
* `Event`: what a trace records.
* `ParseState`: cursor, guard, memo table, counters and trace.
* `Environment`: what stays fixed during a parse.
-/

namespace Packrat

/-- A place in the text, and the furthest place examined so far. -/
structure Cursor where
  /-- The byte offset of the next character. -/
  pos : Nat
  /-- The furthest byte offset examined. -/
  furthest : Nat
  deriving Repr, DecidableEq

/-- The guarded rules active at one position. -/
structure Guard where
  /-- Their bits. -/
  mask : Nat
  /-- The position. -/
  position : Nat
  deriving Repr, DecidableEq

namespace Guard

/-- The mask of one bit; bits that the mask does not have give an empty one. -/
def bitMask (bit : Nat) : Nat :=
  if bit < 64 then 1 <<< bit else 0

/-- Whether the rule of a bit is active at a position. -/
def isActive (g : Guard) (bit pos : Nat) : Bool :=
  g.position == pos && g.mask &&& bitMask bit != 0

/-- The guard once the rule of a bit is entered at a position. -/
def enter (g : Guard) (bit pos : Nat) : Guard :=
  let mask := if g.position = pos then g.mask else 0
  ⟨mask ||| bitMask bit, pos⟩

end Guard

/-- Counters of one parse. -/
structure Stats where
  /-- Calls, those answered from the memo table included. -/
  calls : Nat
  /-- Calls answered from the memo table. -/
  memoHits : Nat
  /-- Calls refused by the guard. -/
  recursionCuts : Nat
  deriving Repr, DecidableEq

/-- What a trace records. -/
inductive Event where
  /-- A rule is entered; the name is that of the slot being filled. -/
  | push (rule : RuleId) (name : Option String)
  /-- The rule entered last is left, having consumed the text from `start` to `stop`. -/
  | pop (rule : RuleId) (success : Bool) (value : Option Value) (start stop : Nat)

/-- The part of the parse state that only calls change. -/
structure Book where
  /-- The active rules guarded by bits. -/
  guard : Guard
  /-- The active rules guarded by walks and where they were entered, innermost first. -/
  walk : List (RuleId × Nat)
  /-- The outcomes remembered. -/
  memo : MemoTable
  /-- The counters. -/
  stats : Stats
  /-- The events recorded, if they are. -/
  trace : Option (Array Event)

/-- The state of one parse. -/
structure ParseState where
  /-- The place in the text. -/
  cursor : Cursor
  /-- What calls keep. -/
  book : Book

namespace ParseState

/-- The state before a parse, with or without a trace. -/
def initial (traced : Bool) : ParseState :=
  ⟨⟨0, 0⟩, ⟨⟨0, 0⟩, [], ∅, ⟨0, 0, 0⟩, if traced then some #[] else none⟩⟩

end ParseState

/-- What stays fixed during a parse. -/
structure Environment where
  /-- The text. -/
  text : String
  /-- The object types. -/
  model : ObjectModel
  /-- The object supplied by the caller. -/
  user : Value
  /-- How outcomes are remembered. -/
  memoMode : MemoMode
  /-- The matchers. -/
  arena : Arena

end Packrat
