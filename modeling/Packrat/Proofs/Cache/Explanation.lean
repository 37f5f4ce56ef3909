import Packrat.Proofs.Cache.WellFormed
import Packrat.Proofs.Lowering.Discipline

/-!
# Why requests fail

A request that fails does so with the error of a rule that can be reached. The rule is malformed, or
its program is too large, or it is an alternative for scalars with a candidate that may not produce
one: the type of the candidate was not determined, and the inference passed over it. Where types
that are not determined spread to alternatives, nothing is left but the first two.

* `CompileError.Explained.of_spreads`: what is left of the reasons.

Main statements: `RuleCache.get_error` and `RuleCache.get_error_of_spreads`.
-/

namespace Packrat

/-- Where `any` spreads, no alternative for scalars has a candidate of that type. -/
theorem CompileError.Explained.of_spreads {g : Grammar} {id : RuleId} {e : CompileError}
    (explained : Explained g id e) (spreads : g.Spreads) :
    (∃ error, e = .grammar error) ∨
      ∃ program table, e = .fault (.programTooLarge program table) := by
  cases explained with
  | malformed error => exact .inl ⟨error, rfl⟩
  | oversized program table => exact .inr ⟨program, table, rfl⟩
  | undetermined found rule member scalar any =>
    rw [spreads _ _ _ found rule _ member any] at scalar
    cases scalar

namespace RuleCache

variable {d : GrammarDraft} {g : Grammar} {model : ObjectModel} {c : RuleCache} {rule : RuleId}
  {e : CompileError}

/-- An error of a request is that of a rule that can be reached, and it has an explanation. -/
theorem explained_of_get [RegexEngine] (built : d.build = .ok g) (history : c.History g model)
    (failed : (c.get rule).1 = .error e) :
    ∃ other, Relation.ReflTransGen (Requests g model) rule other ∧
      CompileError.Explained g other e := by
  have cause := (history.get rule).accountable.cause rule e (failed_of_get failed)
  obtain ⟨_, grammar, sameModel⟩ := (history.get rule).sound
  rw [grammar, sameModel] at cause
  obtain ⟨other, reached, refused⟩ := cause
  exact ⟨other, reached, Lowering.lowerRule_explained (GrammarDraft.build_inferred built) refused⟩

/-- In a grammar in which `any` spreads, a request fails only because a rule is malformed or a
program too large. -/
theorem get_error_of_spreads [RegexEngine] (built : d.build = .ok g) (spreads : g.Spreads)
    (history : c.History g model) (failed : (c.get rule).1 = .error e) :
    (∃ error, e = .grammar error) ∨
      ∃ program table, e = .fault (.programTooLarge program table) := by
  obtain ⟨_, _, explained⟩ := explained_of_get built history failed
  exact explained.of_spreads spreads

/-- Whatever was asked for before, a request fails only because a rule is malformed, or because a
program is too large, or because an alternative without a base that can be reached produces a scalar
while the type of one of its candidates is not determined. -/
theorem get_error [RegexEngine] (built : d.build = .ok g) (history : c.History g model)
    (failed : (c.get rule).1 = .error e) :
    (∃ error, e = .grammar error) ∨
    (∃ program table, e = .fault (.programTooLarge program table)) ∨
    ∃ other definition candidates candidate,
      Relation.ReflTransGen (Requests g model) rule other ∧ g.get? other = some definition ∧
      definition.rule = .alternative none candidates ∧ candidate ∈ candidates ∧
      (g.outputOf other).isScalar = true ∧ g.outputOf candidate = .any ∧
      e = .fault (.scalarExpected (g.displayName other) OutputType.any.display) := by
  obtain ⟨other, reached, explained⟩ := explained_of_get built history failed
  cases explained with
  | malformed error => exact .inl ⟨error, rfl⟩
  | oversized program table => exact .inr (.inl ⟨program, table, rfl⟩)
  | undetermined found rule member scalar any =>
    exact .inr (.inr ⟨other, _, _, _, reached, found, rule, member, scalar, any, rfl⟩)

/-- An optional rule that is its own child, a letter, and the choice of one of them: the type of the
optional rule is not determined. -/
def undeterminedDraft : GrammarDraft :=
  ((GrammarDraft.empty.add (some "loop") (some (.optional ⟨0⟩))).add (some "letter")
    (some (.charSet ['a'] false))).add (some "either") (some (.alternative none [⟨1⟩, ⟨0⟩]))

/-- The grammar of these rules. -/
def undeterminedGrammar : Grammar :=
  ⟨#[⟨some "loop", .optional ⟨0⟩, false⟩, ⟨some "letter", .charSet ['a'] false, false⟩,
    ⟨some "either", .alternative none [⟨1⟩, ⟨0⟩], false⟩], #[.any, .char, .char]⟩

section

attribute [local instance] letterEngine

/-- The request for the choice fails, as its type is a scalar and that of the optional rule is not
determined. -/
theorem get_error_undetermined :
    undeterminedDraft.build = .ok undeterminedGrammar ∧
    ((RuleCache.empty undeterminedGrammar RecordModel.empty.toObjectModel).get ⟨2⟩).1 =
      .error (.fault (.scalarExpected "either" "any")) ∧
    ∃ other definition candidates candidate,
      Relation.ReflTransGen (Requests undeterminedGrammar RecordModel.empty.toObjectModel) ⟨2⟩
        other ∧
      undeterminedGrammar.get? other = some definition ∧
      definition.rule = .alternative none candidates ∧ candidate ∈ candidates ∧
      (undeterminedGrammar.outputOf other).isScalar = true ∧
      undeterminedGrammar.outputOf candidate = .any ∧
      (.fault (.scalarExpected "either" "any") : CompileError) =
        .fault (.scalarExpected (undeterminedGrammar.displayName other)
          OutputType.any.display) := by
  have built : undeterminedDraft.build = .ok undeterminedGrammar := by cbv
  have failed : ((RuleCache.empty undeterminedGrammar RecordModel.empty.toObjectModel).get ⟨2⟩).1 =
      .error (.fault (.scalarExpected "either" "any")) := by cbv
  rcases get_error built .empty failed with ⟨_, same⟩ | ⟨_, _, same⟩ | undetermined
  · cases same
  · cases same
  · exact ⟨built, failed, undetermined⟩

end

end RuleCache

end Packrat
