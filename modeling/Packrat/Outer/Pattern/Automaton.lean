import Packrat.Outer.Pattern.Syntax
import Packrat.Text.Cursor

/-!
# Automata for patterns

A pattern becomes an automaton whose states read a character, test a condition, or branch in
order of preference. A run keeps the states reached at one place in order of preference; a state
that is reached twice counts at its better rank only. The first accepting state ends the run of
all states after it, so the match found is the one that backtracking in order of preference would
find.

Part of the outer layer, see `Packrat.Outer.Pattern.Engine`.

* `Automaton.ofPattern`: the automaton of a pattern.
* `Automaton.close`: the states reached from some states without reading.
* `Automaton.matchAt`: where the preferred match that starts at a place ends.
-/

namespace Packrat.Outer.Pattern

/-- One state of an automaton. -/
inductive State where
  /-- Read a character of a set. -/
  | read (set : CharSet) (next : Nat)
  /-- Go on if a condition holds. -/
  | test (condition : Look) (next : Nat)
  /-- Go on to either state, the first one preferred. -/
  | branch (first second : Nat)
  /-- The match ends here. -/
  | accept
  deriving Repr, DecidableEq

/-- States that refer to each other by their place, and the state to start from. -/
structure Automaton where
  /-- The states. -/
  states : Array State
  /-- Where runs start. -/
  start : Nat
  deriving Repr, DecidableEq

namespace Automaton

/-! ## Construction -/

/-- States built so far, and the one from which the part built last starts. -/
abbrev Build := Array State × Nat

/-- A state added behind the others; the part starts there. -/
def Build.push (states : Array State) (s : State) : Build :=
  (states.push s, states.size)

/-- A branch that prefers `enter` when greedy and `leave` when not. -/
def branchTo (greedy : Bool) (enter leave : Nat) : State :=
  if greedy then .branch enter leave else .branch leave enter

/-- A part built `count` times in a row, the last of them leading to `next`. -/
def repeatBuild (part : Array State → Nat → Build) :
    (count : Nat) → (states : Array State) → (next : Nat) → Build
  | 0, states, next => (states, next)
  | count + 1, states, next =>
    let (states, entry) := part states next
    repeatBuild part count states entry

/-- Up to `count` nested occurrences of a part, each of which may leave for `stop` at once. The
branch before an innermost part is built first. -/
def optionalBuild (part : Array State → Nat → Build) (greedy : Bool) (stop : Nat) :
    (count : Nat) → (states : Array State) → (next : Nat) → Build
  | 0, states, next => (states, next)
  | count + 1, states, next =>
    let (states, entry) := part states next
    let (states, entry) := Build.push states (branchTo greedy entry stop)
    optionalBuild part greedy stop count states entry

/-- A part that is passed at least once and from whose end one may return to its start. The
branch is placed first, so that the part can lead to it. -/
def loopBuild (part : Array State → Nat → Build) (greedy : Bool) (states : Array State)
    (next : Nat) : Array State × Nat × Nat :=
  let branch := states.size
  let (states, entry) := part (states.push .accept) branch
  (states.setIfInBounds branch (branchTo greedy entry next), entry, branch)

/-- Add the states of a pattern in front of the state `next`. -/
def build : Pattern → Array State → Nat → Build
  | .empty, states, next => (states, next)
  | .one set, states, next => Build.push states (.read set next)
  | .look condition, states, next => Build.push states (.test condition next)
  | .seq p q, states, next =>
    let (states, entry) := build q states next
    build p states entry
  | .alt p q, states, next =>
    let (states, first) := build p states next
    let (states, second) := build q states next
    Build.push states (.branch first second)
  | .rep body 0 none greedy, states, next =>
    let (states, entry, branch) := loopBuild (build body) greedy states next
    if body.canBeEmpty then Build.push states (branchTo greedy entry next)
    else (states, branch)
  | .rep body (min + 1) none greedy, states, next =>
    let (states, entry, _) := loopBuild (build body) greedy states next
    repeatBuild (build body) min states entry
  | .rep body min (some max) greedy, states, next =>
    let (states, entry) := optionalBuild (build body) greedy next (max - min) states next
    repeatBuild (build body) min states entry

/-- The automaton of a pattern. -/
def ofPattern (p : Pattern) : Automaton :=
  let (states, entry) := build p #[.accept] 0
  ⟨states, entry⟩

/-! ## Runs -/

/-- States met so far at one place: which ones, and those that read or accept in order of
preference. -/
structure Reached where
  /-- Which states were met. -/
  met : Array Bool
  /-- The reading and accepting ones, best first. -/
  ranked : Array State

/-- Meet the states of `todo` in order, each before the states it leads to without reading. -/
def close (a : Automaton) (before after : Option Char) :
    (fuel : Nat) → (todo : List Nat) → Reached → Reached
  | 0, _, r => r
  | _ + 1, [], r => r
  | fuel + 1, q :: todo, r =>
    if r.met.getD q true then a.close before after fuel todo r
    else
      let r := { r with met := r.met.setIfInBounds q true }
      match a.states[q]? with
      | none => a.close before after fuel todo r
      | some (.test condition next) =>
        let todo := if condition.holds before after then next :: todo else todo
        a.close before after fuel todo r
      | some (.branch first second) => a.close before after fuel (first :: second :: todo) r
      | some s => a.close before after fuel todo { r with ranked := r.ranked.push s }

/-- The reading and accepting states reached from the states of `todo`, best first. Every state
leads to two others at most, which bounds the fuel. -/
def reachedFrom (a : Automaton) (before after : Option Char) (todo : List Nat) : List State :=
  (a.close before after (2 * a.states.size + todo.length + 1) todo
    ⟨Array.replicate a.states.size false, #[]⟩).ranked.toList

/-- The states entered when states read a character, best first, and whether one of them accepts
before it; the states after an accepting one are given up. -/
def readChar (c : Option Char) : List State → (entered : List Nat) → List Nat × Bool
  | [], entered => (entered.reverse, false)
  | .accept :: _, entered => (entered.reverse, true)
  | .read set next :: rest, entered =>
    match c with
    | some d => readChar c rest (if set.mem d then next :: entered else entered)
    | none => readChar c rest entered
  | _ :: rest, entered => readChar c rest entered

/-- Run from the states `current` at `pos`; `best` is the end of the best match so far. The text
has at most `bytes` more characters. -/
def runFrom (a : Automaton) (text : String) : (bytes : Nat) → (pos : Nat) →
    (current : List State) → (best : Option Nat) → Option Nat
  | 0, pos, current, best => if (readChar none current []).2 then some pos else best
  | bytes + 1, pos, current, best =>
    let c := Text.charAt? text pos
    let (entered, accepts) := readChar c current []
    let best := if accepts then some pos else best
    match c, entered with
    | some d, q :: more =>
      let pos := pos + d.utf8Size
      let after := Text.charAt? text pos
      runFrom a text bytes pos (a.reachedFrom (some d) after (q :: more)) best
    | _, _ => best

/-- Where the preferred match that starts at `pos` ends. The text before `pos` is not looked at. -/
def matchAt (a : Automaton) (text : String) (pos : Nat) : Option Nat :=
  let current := a.reachedFrom none (Text.charAt? text pos) [a.start]
  a.runFrom text (text.utf8ByteSize - pos) pos current none

end Automaton

end Packrat.Outer.Pattern
