import Packrat.Lowering.Rule

/-!
# The rule cache

Programs on demand. A request for a rule compiles it and every rule it reaches in one session. A
rule that is asked for while it is being compiled is answered by its matcher, which has no program
yet: the rule closes a cycle, and is given a guard. Guards are mask bits as long as there are any,
and walks after that; once given they stay. A session in which any rule fails publishes nothing,
and the rules that failed are never tried again.

* `RuleCache`: what is published, what failed, and which guards were given.
* `Session`: one request in progress.
* `Session.resolve`: answer for a rule and everything below it.
* `RuleCache.get`: one request.
-/

namespace Packrat

/-- Compiled rules of one grammar. -/
structure RuleCache where
  /-- The grammar. -/
  grammar : Grammar
  /-- The object types. -/
  model : ObjectModel
  /-- All matchers. -/
  arena : Arena
  /-- The published matchers by rule. -/
  ready : Std.HashMap RuleId Handle
  /-- The rules that failed. -/
  failed : Std.HashMap RuleId CompileError
  /-- The guards given. -/
  guards : Std.HashMap RuleId RecursionCheck
  /-- The next mask bit to give. -/
  nextBit : Nat

/-- One request in progress. -/
structure Session where
  /-- All matchers, those of this session included. -/
  arena : Arena
  /-- The rules compiled in this session. -/
  done : Std.HashMap RuleId Handle
  /-- The rules being compiled, innermost first. -/
  inProgress : List (RuleId × Handle)
  /-- The rules that failed. -/
  failed : Std.HashMap RuleId CompileError
  /-- The guards given. -/
  guards : Std.HashMap RuleId RecursionCheck
  /-- The next mask bit to give. -/
  nextBit : Nat

namespace Session

/-- How many rules can be guarded by a mask bit. -/
def guardBits : Nat := 64

/-- Give a rule a guard unless it has one. -/
def giveGuard (s : Session) (rule : RuleId) : Session :=
  if s.guards.contains rule then s
  else if s.nextBit < guardBits then
    { s with guards := s.guards.insert rule (.bit s.nextBit), nextBit := s.nextBit + 1 }
  else { s with guards := s.guards.insert rule .walk }

/-- The matcher of a rule that is published, compiled in this session, or being compiled. -/
def handleOf (c : RuleCache) (s : Session) (rule : RuleId) : Option Handle :=
  (c.ready[rule]?).orElse fun _ =>
    (s.done[rule]?).orElse fun _ => s.inProgress.lookup rule

/-- Actions of a session. The state survives a failure. -/
abbrev Action := ExceptT CompileError (StateM Session)

/-- Finish the innermost rule in progress: its program goes into its matcher, with its callees
linked and its guard set. -/
def complete (c : RuleCache) (rule : RuleId) (h : Handle) (p : Program) : Action Handle := do
  let s ← get
  let guard := (s.guards[rule]?).getD .none
  let linked := { p.link (s.handleOf c) with recursion := guard }
  match s.arena.resolve h linked with
  | .error fault => throw (.fault fault)
  | .ok arena =>
    set { s with arena, done := s.done.insert rule h, inProgress := s.inProgress.tail }
    return h

/-- Give up the innermost rule in progress and remember that it failed. -/
def fail (rule : RuleId) (e : CompileError) : Action α := do
  modify fun s =>
    { s with failed := s.failed.insert rule e, inProgress := s.inProgress.tail }
  throw e

/-- Answer requests in order until one fails. -/
def answer (resolve : RuleId → Action Handle) : List RuleId → Action Unit
  | [] => pure ()
  | id :: rest => do
    let _ ← resolve id
    answer resolve rest

/-- The outcome of an action as a value, so that a failure does not end the session. -/
def attempt (act : Action α) : Action (Except CompileError α) :=
  fun s =>
    match act s with
    | (outcome, s) => (.ok outcome, s)

/-- The matcher of a rule. One that is not there yet is declared, and its rule is compiled after
everything it asks for; the fuel bounds how many rules can be in progress at once. -/
def resolve [RegexEngine] (c : RuleCache) : (fuel : Nat) → RuleId → Action Handle
  | 0, rule => throw (.fault (.unresolvedSubroutine rule))
  | fuel + 1, rule => do
    let s ← get
    if let some h := (c.ready[rule]?).orElse fun _ => s.done[rule]? then return h
    if let some e := s.failed[rule]? then throw e
    if let some h := s.inProgress.lookup rule then
      set (s.giveGuard rule)
      return h
    let (arena, h) := s.arena.declare rule (c.grammar.displayName rule)
    set { s with arena, inProgress := (rule, h) :: s.inProgress }
    let lowered := lowerRule c.grammar c.model rule
    let answered ← attempt (answer (resolve c fuel) lowered.requests)
    match answered with
    | .error e => fail rule e
    | .ok () =>
      match lowered.result with
      | .error e => fail rule e
      | .ok p => complete c rule h p

end Session

namespace RuleCache

/-- A cache with nothing compiled. -/
def empty (g : Grammar) (model : ObjectModel) : RuleCache :=
  ⟨g, model, #[], ∅, ∅, ∅, 0⟩

/-- A new session. -/
def session (c : RuleCache) : Session :=
  ⟨c.arena, ∅, [], c.failed, c.guards, c.nextBit⟩

/-- The cache after a session. Matchers are published only if it succeeded. -/
def afterSession (c : RuleCache) (s : Session) (succeeded : Bool) : RuleCache :=
  let c := { c with failed := s.failed, guards := s.guards, nextBit := s.nextBit }
  if succeeded then
    { c with arena := s.arena, ready := s.done.fold (fun m rule h => m.insert rule h) c.ready }
  else c

/-- The matcher of a rule, compiled at the first request; a rule that failed once fails with the
same error again. -/
def get [RegexEngine] (c : RuleCache) (rule : RuleId) : Except CompileError Handle × RuleCache :=
  match c.ready[rule]? with
  | some h => (.ok h, c)
  | none =>
    match c.failed[rule]? with
    | some e => (.error e, c)
    | none =>
      match (Session.resolve c (c.grammar.size + 1) rule).run c.session with
      | (.ok h, s) => (.ok h, c.afterSession s true)
      | (.error e, s) => (.error e, c.afterSession s false)

/-- How many matchers are published. -/
def size (c : RuleCache) : Nat :=
  c.ready.size

/-- Whether the matcher of a rule is published. -/
def isCompiled (c : RuleCache) (rule : RuleId) : Bool :=
  c.ready.contains rule

/-- The guard of a rule. -/
def guard (c : RuleCache) (rule : RuleId) : RecursionCheck :=
  (c.guards[rule]?).getD .none

end RuleCache

end Packrat
