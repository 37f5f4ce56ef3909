import Packrat.Lowering.Leaf
import Packrat.Lowering.Composite

/-!
# Lowering of rules

* `lowerRule`: the program of a rule, and the requests made on the way to it.
* `Lowered.resolve`: what becomes of it when each request is answered by some resolver.
-/

namespace Packrat

namespace Lowering

/-- Assemble the code of a rule; the register of its result is returned. -/
def body [RegexEngine] (cx : Context) : Rule → Lower (Option Slot)
  | .literal text ignoreCase => literal cx text ignoreCase
  | .charRange ranges negated => charRange cx ranges negated
  | .charSet chars negated => charSet cx chars negated
  | .regex pattern => regex cx pattern
  | .number kind => number cx kind
  | .whitespace => whitespace
  | .eol => eol
  | .eoi => eoi
  | .userObject => userObject cx
  | .location => location
  | .sequence ty parts separator => sequence cx ty parts separator
  | .alternative base candidates => alternative cx base candidates
  | .repetition element separator min max collect =>
    repetition cx element separator min max collect
  | .optional child => optional cx child
  | .lookAhead child => lookAhead child
  | .not child => notAhead child
  | .surround opening inner closing => surround cx opening inner closing
  | .capture child => capture child

end Lowering

/-- The outcome of lowering a rule. -/
structure Lowered where
  /-- The children whose programs were asked for, in order. -/
  requests : List RuleId
  /-- The program, its callees not linked yet, or the reason why there is none. A failure lies
  behind all requests made. -/
  result : Except CompileError Program

/-- Lower a rule of a grammar against an object model. -/
def lowerRule [RegexEngine] (g : Grammar) (model : ObjectModel) (id : RuleId) : Lowered :=
  let name := g.displayName id
  match g.get? id with
  | none => ⟨[], .error (.grammar (.unknownRule name id))⟩
  | some d =>
    let output := g.outputOf id
    let ((result, requests), assembler) :=
      ((Lowering.body ⟨g, model, name, output⟩ d.rule).run.run #[]).run (.start id name)
    match result with
    | .error e => ⟨requests.toList, .error e⟩
    | .ok slot =>
      match assembler.finish output slot d.rule.isConcrete (!d.ignored) with
      | .error fault => ⟨requests.toList, .error (.fault fault)⟩
      | .ok p => ⟨requests.toList, .ok p⟩

/-- Answer requests in order until one is refused. The requests made are returned, the refused one
last, together with the refusal if there is one. -/
def answerRequests (resolve : RuleId → Except CompileError Unit) (made : List RuleId) :
    List RuleId → List RuleId × Option CompileError
  | [] => (made.reverse, none)
  | id :: rest =>
    match resolve id with
    | .ok () => answerRequests resolve (id :: made) rest
    | .error e => ((id :: made).reverse, some e)

/-- The requests made of a resolver and the program, each rule it answers for being given the
handle `handleOf` says. -/
def Lowered.resolve (l : Lowered) (resolve : RuleId → Except CompileError Unit)
    (handleOf : RuleId → Handle) : List RuleId × Except CompileError Program :=
  match answerRequests resolve [] l.requests with
  | (made, some e) => (made, .error e)
  | (made, none) => (made, l.result.map (fun p => p.link (fun id => some (handleOf id))))

end Packrat
