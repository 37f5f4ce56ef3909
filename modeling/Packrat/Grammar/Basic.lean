import Packrat.Grammar.Inference
import Packrat.Grammar.Error

/-!
# Grammars

A grammar is a list of rules with their inferred output types. Every rule gets its identity when
it is added to a draft; its body may come later, so that rules can refer to each other.

* `GrammarDraft`: rules being collected (`declare`, `add`, `define`, `setIgnored`).
* `GrammarDraft.build`: the checked grammar. A name used twice is reported first, then the first
  rule without a body or with a reference out of range.
* `Grammar.displayName`: how messages call a rule.
-/

namespace Packrat

/-- A rule with what is declared about it. -/
structure RuleDef where
  /-- The declared name. -/
  name : Option String
  /-- The body. -/
  rule : Rule
  /-- Whether entering and leaving the rule stays out of the trace. -/
  ignored : Bool
  deriving Repr, DecidableEq

/-- Checked rules with their output types. -/
structure Grammar where
  /-- The rules; a rule's identity is its place. -/
  rules : Array RuleDef
  /-- The output types, in the order of the rules. -/
  outputs : Array OutputType
  deriving Repr, DecidableEq

namespace Grammar

/-- How many rules there are. -/
def size (g : Grammar) : Nat :=
  g.rules.size

/-- The definition of a rule. -/
def get? (g : Grammar) (id : RuleId) : Option RuleDef :=
  g.rules[id.index]?

/-- The rule with a declared name. -/
def lookup (g : Grammar) (name : String) : Option RuleId :=
  (g.rules.findIdx? (fun d => d.name == some name)).map RuleId.mk

/-- The output type of a rule. -/
def outputType? (g : Grammar) (id : RuleId) : Option OutputType :=
  g.outputs[id.index]?

/-- The output type of a rule, `any` for a rule that the grammar does not have. -/
def outputOf (g : Grammar) (id : RuleId) : OutputType :=
  (g.outputType? id).getD .any

/-- How messages call a rule: by its declared name, else by its construct and identity. -/
def displayName (g : Grammar) (id : RuleId) : String :=
  match g.get? id with
  | some d => d.name.getD (d.rule.kindName ++ toString id)
  | none => "unknown" ++ toString id

end Grammar

/-! ## Collecting rules -/

/-- A rule whose body may still be missing. -/
structure PendingRule where
  /-- The declared name. -/
  name : Option String
  /-- The body, once there is one. -/
  rule : Option Rule
  /-- Whether entering and leaving the rule stays out of the trace. -/
  ignored : Bool
  deriving Repr, DecidableEq

/-- Rules being collected. -/
structure GrammarDraft where
  /-- The rules so far; a rule's identity is its place. -/
  rules : Array PendingRule
  deriving Repr, DecidableEq

namespace GrammarDraft

/-- The draft without rules. -/
def empty : GrammarDraft := ⟨#[]⟩

/-- Add a rule. Its identity is the number of rules before it. -/
def add (d : GrammarDraft) (name : Option String) (rule : Option Rule) : GrammarDraft :=
  ⟨d.rules.push ⟨name, rule, false⟩⟩

/-- Give a rule a body, in place of one it may have. -/
def define (d : GrammarDraft) (id : RuleId) (rule : Rule) : GrammarDraft :=
  ⟨d.rules.modify id.index (fun p => { p with rule := some rule })⟩

/-- Say whether a rule stays out of the trace. Unknown rules are passed over. -/
def setIgnored (d : GrammarDraft) (id : RuleId) (ignored : Bool) : GrammarDraft :=
  ⟨d.rules.modify id.index (fun p => { p with ignored })⟩

/-- The first name that is declared again after it was declared before. -/
def firstDuplicate (seen : List String) : List PendingRule → Option String
  | [] => none
  | p :: rest =>
    match p.name with
    | some name => if seen.contains name then some name else firstDuplicate (name :: seen) rest
    | none => firstDuplicate seen rest

/-- The checked form of the rule at place `i` in a draft of `count` rules. -/
def check (count i : Nat) (p : PendingRule) : Except GrammarError RuleDef :=
  let display := p.name.getD ("rule#" ++ toString i)
  match p.rule with
  | none => .error (.undefinedRule display)
  | some rule =>
    match rule.children.find? (fun child => count ≤ child.index) with
    | some target => .error (.unknownRule display target)
    | none => .ok ⟨p.name, rule, p.ignored⟩

/-- The checked forms of rules, the first of them at place `i`, after those already checked. -/
def checkFrom (count i : Nat) (done : Array RuleDef) :
    List PendingRule → Except GrammarError (Array RuleDef)
  | [] => .ok done
  | p :: rest =>
    match check count i p with
    | .error e => .error e
    | .ok d => checkFrom count (i + 1) (done.push d) rest

/-- The grammar that a draft describes. -/
def build (d : GrammarDraft) : Except GrammarError Grammar :=
  match firstDuplicate [] d.rules.toList with
  | some name => .error (.duplicateRuleName name)
  | none =>
    match checkFrom d.rules.size 0 #[] d.rules.toList with
    | .error e => .error e
    | .ok rules => .ok ⟨rules, inferOutputs (rules.toList.map RuleDef.rule)⟩

end GrammarDraft

end Packrat
