import Packrat.Proofs.Cache.Session
import Packrat.Proofs.Lowering.Finished

/-!
# Rules that stay out of the trace

That rules stay out of the trace is said about the rules of a draft, and it is passed on from there
to the grammar, to the programs and to the caches of programs. Nothing else changes on the way: the
same drafts can be built, the same rules compile, with the same requests and the same errors, and
their programs have the same matchers and guards.

* `GrammarDraft.ignoring`: a draft in which some rules stay out of the trace, too.
* `Grammar.ignoring`, `Program.ignoring`, `RuleCache.ignoring`: what becomes of it.

Main statements: `GrammarDraft.build_ignoring`, `lowerRule_ignoring` and
`RuleCache.getAll_ignoring`.
-/

namespace Packrat

/-! ## Drafts and grammars -/

/-- The rule at a place of a draft, staying out of the trace if it is one of some rules. -/
def PendingRule.ignoring (F : List RuleId) (i : Nat) (p : PendingRule) : PendingRule :=
  { p with ignored := p.ignored || F.contains ⟨i⟩ }

/-- The rule at a place of a grammar, staying out of the trace if it is one of some rules. -/
def RuleDef.ignoring (F : List RuleId) (i : Nat) (d : RuleDef) : RuleDef :=
  { d with ignored := d.ignored || F.contains ⟨i⟩ }

namespace GrammarDraft

/-- The draft with some rules staying out of the trace, too. -/
def ignoring (F : List RuleId) (d : GrammarDraft) : GrammarDraft :=
  F.foldl (fun d rule => d.setIgnored rule true) d

/-- A rule of a draft in which some rules are ignored. -/
theorem getElem?_ignoring (F : List RuleId) (d : GrammarDraft) (i : Nat) :
    (d.ignoring F).rules[i]? = d.rules[i]?.map (PendingRule.ignoring F i) := by
  induction F generalizing d with
  | nil => cases found : d.rules[i]? <;> simp [ignoring, PendingRule.ignoring, found]
  | cons rule F ih =>
    show ((d.setIgnored rule true).ignoring F).rules[i]? = _
    rw [ih, setIgnored, Array.getElem?_modify]
    by_cases here : rule.index = i
    · subst here
      cases d.rules[rule.index]? <;> simp [PendingRule.ignoring]
    · have other : (⟨i⟩ : RuleId) ≠ rule := by
        rintro rfl
        exact here rfl
      rw [if_neg here]
      cases d.rules[i]? <;> simp [PendingRule.ignoring, other]

/-- All rules of such a draft. -/
theorem rules_ignoring (F : List RuleId) (d : GrammarDraft) :
    (d.ignoring F).rules = d.rules.mapIdx (PendingRule.ignoring F) := by
  apply Array.ext_getElem?
  intro i
  rw [getElem?_ignoring, Array.getElem?_mapIdx]

end GrammarDraft

/-- The grammar with some rules staying out of the trace, too. -/
def Grammar.ignoring (F : List RuleId) (g : Grammar) : Grammar :=
  ⟨g.rules.mapIdx (RuleDef.ignoring F), g.outputs⟩

namespace GrammarDraft

/-- Whether a rule is ignored does not matter to its check. -/
theorem check_ignoring (F : List RuleId) (count i : Nat) (p : PendingRule) :
    check count i (p.ignoring F i) = (check count i p).map (RuleDef.ignoring F i) := by
  obtain ⟨name, rule, ignored⟩ := p
  cases rule with
  | none => rfl
  | some rule =>
    simp only [check, PendingRule.ignoring]
    cases rule.children.find? (fun child => count ≤ child.index) <;> rfl

/-- Checked rules are numbered on from those already checked. -/
theorem checkFrom_ignoring (F : List RuleId) (count : Nat) (done : Array RuleDef)
    (rules : List PendingRule) :
    checkFrom count done.size (done.mapIdx (RuleDef.ignoring F))
        (rules.mapIdx fun k p => p.ignoring F (k + done.size)) =
      (checkFrom count done.size done rules).map (Array.mapIdx (RuleDef.ignoring F)) := by
  induction rules generalizing done with
  | nil => rfl
  | cons p rest ih =>
    simp only [List.mapIdx_cons, checkFrom, Nat.zero_add]
    rw [check_ignoring]
    cases check count done.size p with
    | error e => rfl
    | ok d =>
      have further := ih (done.push d)
      rw [Array.mapIdx_push, Array.size_push] at further
      simp only [Nat.add_assoc, Nat.add_comm 1]
      exact further

/-- Nor does it matter to the search for a name that is used twice. -/
theorem firstDuplicate_ignoring (F : List RuleId) (seen : List String) (i : Nat)
    (rules : List PendingRule) :
    firstDuplicate seen (rules.mapIdx fun k p => p.ignoring F (k + i)) =
      firstDuplicate seen rules := by
  induction rules generalizing seen i with
  | nil => rfl
  | cons p rest ih =>
    have further (seen : List String) := ih seen (i + 1)
    simp only [List.mapIdx_cons, Nat.add_assoc, Nat.add_comm 1, firstDuplicate, further]
    rfl

/-- A draft can be built or not, whatever stays out of the trace. -/
theorem build_ignoring (F : List RuleId) (d : GrammarDraft) :
    (d.ignoring F).build = d.build.map (Grammar.ignoring F) := by
  have names := firstDuplicate_ignoring F [] 0 d.rules.toList
  have checked := checkFrom_ignoring F d.rules.size #[] d.rules.toList
  simp only [build, rules_ignoring, Array.size_mapIdx, Array.toList_mapIdx]
  simp only [Nat.add_zero, Array.size_empty, Array.mapIdx_empty] at names checked
  rw [names, checked]
  cases firstDuplicate [] d.rules.toList with
  | some name => rfl
  | none =>
    cases checkFrom d.rules.size 0 #[] d.rules.toList with
    | error e => rfl
    | ok rules =>
      have same : ((rules.mapIdx (RuleDef.ignoring F)).toList.map RuleDef.rule) =
          rules.toList.map RuleDef.rule := by
        apply List.ext_getElem?
        intro i
        simp [RuleDef.ignoring, Function.comp_def]
      simp only [Except.map, Grammar.ignoring, same]

end GrammarDraft

namespace Grammar

variable (F : List RuleId) (g : Grammar)

/-- Ignoring rules leaves their number as it is. -/
@[simp] theorem size_ignoring : (g.ignoring F).size = g.size := Array.size_mapIdx

/-- A rule of a grammar in which some rules are ignored. -/
@[simp] theorem get?_ignoring (id : RuleId) :
    (g.ignoring F).get? id = (g.get? id).map (RuleDef.ignoring F id.index) :=
  Array.getElem?_mapIdx

/-- Ignoring rules leaves their types as they are. -/
@[simp] theorem outputOf_ignoring (id : RuleId) :
    (g.ignoring F).outputOf id = g.outputOf id := rfl

/-- Ignoring rules leaves the names shown for them as they are. -/
@[simp] theorem displayName_ignoring (id : RuleId) :
    (g.ignoring F).displayName id = g.displayName id := by
  unfold displayName
  rw [get?_ignoring]
  cases g.get? id <;> rfl

end Grammar

/-! ## Programs -/

namespace Lowering

section

variable (F : List RuleId) (g : Grammar) (model : ObjectModel) (name : String)
  (output : OutputType)

/-- The check of the parts of a sequence does not see which rules are ignored. -/
theorem checkParts_ignoring (object : Option (String × List String)) (parts : List Part) :
    checkParts ⟨g.ignoring F, model, name, output⟩ object parts =
      checkParts ⟨g, model, name, output⟩ object parts := by
  induction parts with
  | nil => rfl
  | cons part rest ih =>
    obtain ⟨_ | slot, rule⟩ := part
    · exact ih
    · cases object with
      | none => rfl
      | some object =>
        simp only [checkParts, ih]
        rfl

/-- The code of the parts of a sequence does not depend on which rules are ignored. -/
theorem sequenceParts_ignoring (separator : Option RuleId) (obj : Option ObjSlot) (fail : Label)
    (first : Bool) (parts : List Part) :
    sequenceParts ⟨g.ignoring F, model, name, output⟩ separator obj fail first parts =
      sequenceParts ⟨g, model, name, output⟩ separator obj fail first parts := by
  induction parts generalizing first with
  | nil => rfl
  | cons part rest ih =>
    simp only [sequenceParts, ih]
    rfl

/-- The code of the candidates of an alternative does not depend on it either. -/
theorem tryCandidates_ignoring (result : Option Slot) (done : Label) (candidates : List RuleId) :
    tryCandidates ⟨g.ignoring F, model, name, output⟩ result done candidates =
      tryCandidates ⟨g, model, name, output⟩ result done candidates := by
  induction candidates with
  | nil => rfl
  | cons candidate rest ih =>
    simp only [tryCandidates, ih]
    rfl

/-- The check of a sequence does not see which rules are ignored. -/
theorem checkSequence_ignoring (ty : Option String) (parts : List Part) :
    checkSequence ⟨g.ignoring F, model, name, output⟩ ty parts =
      checkSequence ⟨g, model, name, output⟩ ty parts := by
  simp only [checkSequence, checkParts_ignoring]

/-- Whether a candidate fits a base does not depend on which rules are ignored. -/
theorem acceptsCandidate_ignoring (base : String) (candidate : RuleId) :
    acceptsCandidate ⟨g.ignoring F, model, name, output⟩ base candidate =
      acceptsCandidate ⟨g, model, name, output⟩ base candidate := by
  have based : isBasedAlternative ⟨g.ignoring F, model, name, output⟩ candidate =
      isBasedAlternative ⟨g, model, name, output⟩ candidate := by
    simp only [isBasedAlternative, Grammar.get?_ignoring]
    cases g.get? candidate <;> rfl
  simp only [acceptsCandidate, based]
  rfl

/-- The check of an alternative does not see which rules are ignored. -/
theorem checkAlternative_ignoring (base : Option String) (candidates : List RuleId) :
    checkAlternative ⟨g.ignoring F, model, name, output⟩ base candidates =
      checkAlternative ⟨g, model, name, output⟩ base candidates := by
  simp only [checkAlternative, acceptsCandidate_ignoring, Grammar.displayName_ignoring]

/-- The code of a rule does not depend on what stays out of the trace. -/
theorem body_ignoring [RegexEngine] (rule : Rule) :
    body ⟨g.ignoring F, model, name, output⟩ rule = body ⟨g, model, name, output⟩ rule := by
  cases rule with
  | sequence ty parts separator =>
    simp only [body, sequence, checkSequence_ignoring, sequenceParts_ignoring]
  | alternative base candidates =>
    simp only [body, alternative, checkAlternative_ignoring, tryCandidates_ignoring]
    rfl
  | _ => rfl

end

end Lowering

/-- The program, staying out of the trace if its rule is one of some rules. -/
def Program.ignoring (F : List RuleId) (p : Program) : Program :=
  { p with traced := p.traced && !F.contains p.rule }

/-- Finishing the program of an ignored rule gives the program without a trace. -/
theorem finish_ignoring (F : List RuleId) (a : Assembler) (output : OutputType)
    (result : Option Slot) (concrete ignored : Bool) :
    a.finish output result concrete (!(ignored || F.contains a.rule)) =
      (a.finish output result concrete !ignored).map (Program.ignoring F) := by
  unfold Assembler.finish
  split
  · rfl
  · split
    · rfl
    · split
      · rfl
      · split
        · rfl
        · rw [Bool.not_or]
          rfl

open Lowering in
/-- The program of a rule: whether it stays out of the trace is all that changes. -/
theorem lowerRule_ignoring [RegexEngine] (F : List RuleId) (g : Grammar) (model : ObjectModel)
    (id : RuleId) : lowerRule (g.ignoring F) model id = ⟨(lowerRule g model id).requests,
      (lowerRule g model id).result.map (Program.ignoring F)⟩ := by
  cases found : g.get? id with
  | none =>
    have found' : (g.ignoring F).get? id = none := by simp [found]
    simp only [lowerRule, found, found', Grammar.displayName_ignoring]
    rfl
  | some d =>
    have found' : (g.ignoring F).get? id = some (d.ignoring F id.index) := by simp [found]
    have grown := LowerLeads.leads (S := laterProgram) ()
      (m := body ⟨g, model, g.displayName id, g.outputOf id⟩ d.rule) #[]
      (.start id (g.displayName id))
    rw [lowerRule_of_found found, lowerRule_of_found found', Grammar.displayName_ignoring,
      body_ignoring]
    dsimp only [RuleDef.ignoring, Grammar.outputOf_ignoring]
    generalize (body ⟨g, model, g.displayName id, g.outputOf id⟩ d.rule).run.run #[]
      (.start id (g.displayName id)) = result at grown ⊢
    obtain ⟨⟨_ | slot, requests⟩, b⟩ := result
    · rfl
    · have named : b.rule = id := grown.rule
      have finished := finish_ignoring F b (g.outputOf id) slot d.rule.isConcrete d.ignored
      rw [named] at finished
      dsimp only
      rw [finished]
      cases b.finish (g.outputOf id) slot d.rule.isConcrete (!d.ignored) <;> rfl

/-! ## Caches -/

/-- The matcher, its program staying out of the trace if its rule is one of some rules. -/
def Matcher.ignoring (F : List RuleId) (m : Matcher) : Matcher :=
  { m with program? := m.program?.map (Program.ignoring F) }

/-- The matchers, with some rules staying out of the trace, too. -/
def Arena.ignoring (F : List RuleId) (a : Arena) : Arena := a.map (Matcher.ignoring F)

/-- The program of a matcher in an arena in which some rules are ignored. -/
theorem Matcher.program_ignoring (F : List RuleId) (m : Matcher) :
    (m.ignoring F).program = m.program.map (Program.ignoring F) := by
  unfold Matcher.program Matcher.ignoring
  cases m.program? <;> rfl

namespace Arena

/-- A matcher of such an arena. -/
@[simp] theorem get?_ignoring (F : List RuleId) (a : Arena) (h : Handle) :
    (a.ignoring F).get? h = (a.get? h).map (Matcher.ignoring F) := Array.getElem?_map

/-- Filling a matcher of such an arena. -/
theorem resolve_ignoring (F : List RuleId) (a : Arena) (h : Handle) (p : Program) :
    (a.ignoring F).resolve h (p.ignoring F) = (a.resolve h p).map (Arena.ignoring F) := by
  unfold resolve
  rw [get?_ignoring]
  cases a.get? h with
  | none => rfl
  | some m =>
    obtain ⟨rule, name, program⟩ := m
    cases program with
    | none => simp [Matcher.resolve, Matcher.ignoring, Except.map, ignoring]
    | some p' => rfl

end Arena

/-- The session, with some rules staying out of the trace, too. -/
def Session.ignoring (F : List RuleId) (s : Session) : Session :=
  { s with arena := s.arena.ignoring F }

/-- The cache, with some rules staying out of the trace, too. -/
def RuleCache.ignoring (F : List RuleId) (c : RuleCache) : RuleCache :=
  { c with grammar := c.grammar.ignoring F, arena := c.arena.ignoring F }

namespace RuleCache

variable (F : List RuleId) (c : RuleCache)

/-- The grammar of a cache in which some rules are ignored. -/
@[simp] theorem grammar_ignoring : (c.ignoring F).grammar = c.grammar.ignoring F := rfl

/-- Its object types are those of the cache. -/
@[simp] theorem model_ignoring : (c.ignoring F).model = c.model := rfl

/-- It has the same rules published. -/
@[simp] theorem ready_ignoring : (c.ignoring F).ready = c.ready := rfl

/-- Its session is that of the cache, with those rules ignored. -/
@[simp] theorem session_ignoring : (c.ignoring F).session = c.session.ignoring F := rfl

end RuleCache

namespace Session

variable (F : List RuleId) (c : RuleCache) (s : Session)

/-- The arena of a session in which some rules are ignored. -/
@[simp] theorem arena_ignoring : (s.ignoring F).arena = s.arena.ignoring F := rfl

/-- Such a session has the same rules done. -/
@[simp] theorem done_ignoring : (s.ignoring F).done = s.done := rfl

/-- Such a session has the same rules in progress. -/
@[simp] theorem inProgress_ignoring : (s.ignoring F).inProgress = s.inProgress := rfl

/-- The same rules have failed in such a session. -/
@[simp] theorem failed_ignoring : (s.ignoring F).failed = s.failed := rfl

/-- The same guards were given in such a session. -/
@[simp] theorem guards_ignoring : (s.ignoring F).guards = s.guards := rfl

/-- Such a session has the same matchers of rules. -/
@[simp] theorem handleOf_ignoring : (s.ignoring F).handleOf (c.ignoring F) = s.handleOf c := rfl

/-- Such a session gives the same guards. -/
theorem giveGuard_ignoring (rule : RuleId) :
    (s.ignoring F).giveGuard rule = (s.giveGuard rule).ignoring F := by
  unfold giveGuard ignoring
  dsimp only
  split
  · rfl
  · split <;> rfl

/-- A rule begins alike in such a session. -/
theorem begin_ignoring (rule : RuleId) :
    begin (c.ignoring F) (s.ignoring F) rule = (begin c s rule).ignoring F := by
  simp [begin, ignoring, Arena.declare, Arena.ignoring, Matcher.declare, Matcher.ignoring]

/-- What an action leads to where some rules stay out of the trace, too. -/
def endIgnoring {α : Type} (F : List RuleId) : α × Session → α × Session
  | (outcome, s) => (outcome, s.ignoring F)

variable {F}

/-- Requests are answered alike in such a session if each of them is. -/
theorem answer_ignoring {resolve resolve' : RuleId → Action Handle}
    (same : ∀ id s, resolve' id (s.ignoring F) = endIgnoring F (resolve id s))
    (requests : List RuleId) :
    answer resolve' requests (s.ignoring F) = endIgnoring F (answer resolve requests s) := by
  induction requests generalizing s with
  | nil => rfl
  | cons id rest ih =>
    rw [answer_cons, answer_cons, same]
    cases resolve id s with
    | mk outcome s' =>
      cases outcome with
      | error e => rfl
      | ok h => exact ih s'

/-- A rule is completed alike in such a session. -/
theorem complete_ignoring (rule : RuleId) (h : Handle) (p : Program) :
    complete (c.ignoring F) rule h (p.ignoring F) (s.ignoring F) =
      endIgnoring F (complete c rule h p s) := by
  have resolved := Arena.resolve_ignoring F s.arena h
    { p.link (s.handleOf c) with recursion := (s.guards[rule]?).getD .none }
  have linked : { (p.ignoring F).link (s.handleOf c) with
      recursion := (s.guards[rule]?).getD .none } = Program.ignoring F
        { p.link (s.handleOf c) with recursion := (s.guards[rule]?).getD .none } := rfl
  rw [complete_eq, complete_eq, handleOf_ignoring, guards_ignoring, arena_ignoring, linked,
    resolved]
  cases s.arena.resolve h
    { p.link (s.handleOf c) with recursion := (s.guards[rule]?).getD .none } <;> rfl

/-- Once its requests are answered, a rule is compiled alike in such a session. -/
theorem compiledNow_ignoring [RegexEngine] (rule : RuleId) (h : Handle)
    (answered : Except CompileError Unit × Session) :
    compiledNow (c.ignoring F) rule h (endIgnoring F answered) =
      endIgnoring F (compiledNow c rule h answered) := by
  obtain ⟨_ | _, s⟩ := answered
  · rfl
  · simp only [endIgnoring, compiledNow, RuleCache.grammar_ignoring,
      RuleCache.model_ignoring, lowerRule_ignoring]
    cases (lowerRule c.grammar c.model rule).result with
    | error e => rfl
    | ok p => exact complete_ignoring c s rule h p

/-- A request is answered alike in such a session. -/
theorem resolve_ignoring [RegexEngine] (fuel : Nat) (rule : RuleId) :
    resolve (c.ignoring F) fuel rule (s.ignoring F) = endIgnoring F (resolve c fuel rule s) := by
  induction fuel generalizing rule s with
  | zero => rfl
  | succ fuel ih =>
    have below := answer_ignoring (begin c s rule) (fun id s => ih s id)
      (lowerRule c.grammar c.model rule).requests
    have size : (s.arena.ignoring F).size = s.arena.size := Array.size_map ..
    rw [resolve_succ, resolve_succ]
    simp only [RuleCache.ready_ignoring, done_ignoring, failed_ignoring, inProgress_ignoring,
      arena_ignoring, RuleCache.grammar_ignoring, RuleCache.model_ignoring, lowerRule_ignoring,
      size]
    rw [begin_ignoring, below, compiledNow_ignoring, giveGuard_ignoring]
    cases (c.ready[rule]?).orElse fun _ => s.done[rule]? with
    | some h => rfl
    | none =>
      cases s.failed[rule]? with
      | some e => rfl
      | none => cases s.inProgress.lookup rule <;> rfl

end Session

namespace RuleCache

/-- A request is answered alike, whatever stays out of the trace. -/
theorem get_ignoring [RegexEngine] (F : List RuleId) (c : RuleCache) (rule : RuleId) :
    (c.ignoring F).get rule = ((c.get rule).1, (c.get rule).2.ignoring F) := by
  have resolved := Session.resolve_ignoring (F := F) c c.session (c.grammar.size + 1) rule
  have failed : (c.ignoring F).failed = c.failed := rfl
  unfold get
  simp only [ready_ignoring, grammar_ignoring, Grammar.size_ignoring, failed]
  cases c.ready[rule]? with
  | some h => rfl
  | none =>
    cases c.failed[rule]? with
    | some e => rfl
    | none =>
      simp only [session_ignoring, ExceptT.run]
      rw [resolved]
      cases Session.resolve c (c.grammar.size + 1) rule c.session with
      | mk outcome s => cases outcome <;> rfl

/-- Ignoring rules of an empty cache is ignoring them in its grammar. -/
theorem empty_ignoring (F : List RuleId) (g : Grammar) (model : ObjectModel) :
    empty (g.ignoring F) model = (empty g model).ignoring F := by
  simp [empty, ignoring, Arena.ignoring]

/-- The caches after the same requests differ in what stays out of the trace only. -/
theorem getAll_ignoring [RegexEngine] (F : List RuleId) (c : RuleCache) (rules : List RuleId) :
    (c.ignoring F).getAll rules = (c.getAll rules).ignoring F := by
  induction rules generalizing c with
  | nil => rfl
  | cons rule rest ih =>
    show ((c.ignoring F).get rule).2.getAll rest = _
    rw [get_ignoring]
    exact ih (c.get rule).2

end RuleCache

end Packrat
