import Packrat.Proofs.Calls

/-!
# Matches

Matches follow each other on one parse state; place and memo table carry over. Between matches no
rule is active, and what is remembered agrees with every closed meaning.

* `environmentOf`: what stays fixed while a text is parsed with the rules of a cache.
* `Reached`: the states of a parse.
* `Rests`: what holds of them.

Main statements: `match_comes` and `match_terminates`.
-/

namespace Packrat.Machine

open Text (Within)

/-- What stays fixed while a text is parsed with the rules of a cache. -/
def environmentOf (c : RuleCache) (text : String) (user : Value) (mode : MemoMode) : Environment :=
  ⟨text, c.model, user, mode, c.arena⟩

/-- The states of a parse: at any place of the text at first, and where matches of published rules
lead. -/
inductive Reached (c : RuleCache) (env : Environment) : ParseState → Prop where
  /-- Before the first match. -/
  | start (traced : Bool) {pos : Nat} (le : pos ≤ env.text.utf8ByteSize) :
      Reached c env ⟨⟨pos, 0⟩, (ParseState.initial traced).book⟩
  /-- After one more match. -/
  | after {state state' : ParseState} {rule : RuleId} {h : Handle} {fuel : Nat}
      {outcome : Except EngineFault (Option Value)} (before : Reached c env state)
      (ready : c.ready[rule]? = some h)
      (found : matchRule env fuel h state = some (outcome, state')) : Reached c env state'

/-- No rule is active, the place is in the text, and what is remembered agrees with the meaning. -/
structure Rests (c : RuleCache) (env : Environment) (M : Meanings) (state : ParseState) : Prop where
  le : state.cursor.pos ≤ env.text.utf8ByteSize
  guard : state.book.guard = ⟨0, 0⟩
  walk : state.book.walk = []
  recalls : Recalls c env M state.book.memo

variable {c : RuleCache} {env : Environment} {M : Meanings} {state : ParseState} {rule : RuleId}
  {h : Handle}

/-- Between two matches no rule is being tried. -/
theorem Rests.tracks (rests : Rests c env M state) :
    Tracks c.guards [] state.cursor.pos state.book :=
  (Tracks.initial c.guards state.cursor.pos false).of_eq rests.guard rests.walk

/-- Matches have one result at most. -/
theorem matchRule_unique {fuel fuel' : Nat}
    {result result' : Except EngineFault (Option Value) × ParseState}
    (found : matchRule env fuel h state = some result)
    (found' : matchRule env fuel' h state = some result') : result = result' := by
  have first := matchRule_mono (Nat.le_max_left fuel fuel') found
  have second := matchRule_mono (Nat.le_max_right fuel fuel') found'
  exact Option.some.inj (first.symm.trans second)

/-- A match of a published rule comes to an end, in one of the ways that a closed meaning has for
it, and nothing else is the result of the match. -/
theorem match_comes [RegexEngine] (parse : Parse c env) (closed : Closed c env M)
    (rests : Rests c env M state) (ready : c.ready[rule]? = some h) :
    ∃ p ending, Calls env h none state ending ∧
      p.output = c.grammar.outputOf rule ∧
      (∃ fuel, matchRule env fuel h state = some (matched p ending)) ∧
      (∀ fuel result, matchRule env fuel h state = some result → result = matched p ending) ∧
      Concluded env.text (c.grammar.outputOf rule) (Kept c env M state.book) state.cursor.pos
        (M [] rule state.cursor.pos) ending ∧
      (ending.1 = .ok none → ending.2.cursor.pos = state.cursor.pos) := by
  obtain ⟨ending, calls, concluded, undone⟩ :=
    comes parse closed [] rule rests.le h none state ready rfl rests.tracks rests.recalls
  obtain ⟨d, p, published⟩ := parse.cache.entries rule h ready
  obtain ⟨fuel, found⟩ := matchRule_of_calls (programOf_of_published parse published) calls
  refine ⟨p, ending, calls, published.compiled.output, ⟨fuel, found⟩, fun fuel' result found' => ?_,
    concluded, undone⟩
  exact matchRule_unique found' found

/-- A match leads from rest to rest. -/
theorem Rests.after [RegexEngine] (parse : Parse c env) (closed : Closed c env M)
    (rests : Rests c env M state) (ready : c.ready[rule]? = some h) {fuel : Nat}
    {result : Except EngineFault (Option Value) × ParseState}
    (found : matchRule env fuel h state = some result) : Rests c env M result.2 := by
  obtain ⟨p, ending, _, _, _, unique, concluded, _⟩ := match_comes parse closed rests ready
  rw [unique _ _ found]
  have kept := concluded.good
  exact ⟨concluded.within.le_size rests.le, kept.guard.trans rests.guard,
    kept.walk.trans rests.walk, kept.recalls⟩

/-- The states of a parse are at rest. -/
theorem Reached.rests [RegexEngine] (parse : Parse c env) (closed : Closed c env M)
    (reached : Reached c env state) : Rests c env M state := by
  induction reached with
  | start traced le =>
    refine ⟨le, rfl, rfl, fun _ key entry there => ?_⟩
    simp [ParseState.initial] at there
  | after _ ready found ih => exact ih.after parse closed ready found

/-! ## Parses with the rules of a cache -/

/-- The rules of a cache that came about by requests for rules of a grammar that was built. -/
theorem parse_of_history [RegexEngine] {d : GrammarDraft} {g : Grammar} (built : d.build = .ok g)
    {m : RecordModel} (history : c.History g m.toObjectModel) {text : String}
    (short : text.utf8ByteSize < 2 ^ 63) (user : Value) (mode : MemoMode) :
    Parse c (environmentOf c text user mode) := by
  obtain ⟨sound, rfl, model⟩ := history.sound
  refine ⟨sound, GrammarDraft.build_inferred built, ?_, rfl, rfl, short⟩
  rw [model]
  exact Lowering.recordLike_of_recordModel m

/-- The meaning that has every outcome. -/
def anything : Meanings := fun _ _ _ _ => True

/-- What any run comes to is an outcome. -/
theorem anything_closed [RegexEngine] (c : RuleCache) (env : Environment) :
    Closed c env anything where
  cut _ _ _ _ _ := trivial
  rule _ _ _ _ _ _ _ _ := trivial
  context _ _ _ _ _ _ _ := trivial

/-- Every match comes to an end after finitely many steps: for every grammar that can be built and
every rule that was compiled, whatever was asked for before; from every place of the text, after
any other matches, and however outcomes are remembered. A text is never so long that a word cannot
hold its size. -/
theorem match_terminates [RegexEngine] {d : GrammarDraft} {g : Grammar} (built : d.build = .ok g)
    (m : RecordModel) {c : RuleCache} (history : c.History g m.toObjectModel) {rule : RuleId}
    {h : Handle} (obtained : (c.get rule).1 = .ok h) {text : String}
    (short : text.utf8ByteSize < 2 ^ 63) (user : Value) (mode : MemoMode) {state : ParseState}
    (reached : Reached (c.get rule).2 (environmentOf (c.get rule).2 text user mode) state) :
    ∃ fuel result, matchRule (environmentOf (c.get rule).2 text user mode) fuel h state =
      some result := by
  have parse := parse_of_history built (history.get rule) short user mode
  have closed := anything_closed (c.get rule).2 (environmentOf (c.get rule).2 text user mode)
  obtain ⟨_, ending, _, _, ⟨fuel, found⟩, _⟩ := match_comes parse closed
    (reached.rests parse closed) (RuleCache.ready_of_get history.sound.1 obtained)
  exact ⟨fuel, _, found⟩

/-! ## Matches of the samples -/

/-- A match with known counters has a parse state that has them. -/
theorem exists_of_stats {fuel : Nat} {outcome : Except EngineFault (Option Value)} {stats : Stats}
    (found : (matchRule env fuel h state).map (fun result => (result.1, result.2.book.stats)) =
      some (outcome, stats)) :
    ∃ s, matchRule env fuel h state = some (outcome, s) ∧ s.book.stats = stats := by
  obtain ⟨⟨outcome, s⟩, ran, same⟩ := Option.map_eq_some_iff.mp found
  cases same
  exact ⟨s, ran, rfl⟩

section

variable [RegexEngine]

/-- The environment of a parse with the rule for the letter a. -/
theorem letter_environment {text : String} (mode : MemoMode) :
    environmentOf (letterCache.get ⟨0⟩).2 text .null mode =
      ⟨text, RecordModel.empty.toObjectModel, .null, mode,
        #[⟨⟨0⟩, "letter", some letterProgram⟩]⟩ := by
  have history : (letterCache.get ⟨0⟩).2.History letterGrammar RecordModel.empty.toObjectModel :=
    .get .empty ⟨0⟩
  rw [environmentOf, letter_get.2.1, history.sound.2.2]

/-- The environment of a parse with the repetition of letters a. -/
theorem letters_environment {text : String} (mode : MemoMode) :
    environmentOf (lettersCache.get ⟨1⟩).2 text .null mode =
      ⟨text, RecordModel.empty.toObjectModel, .null, mode,
        #[⟨⟨1⟩, "letters", some (lettersProgram ⟨⟨0⟩, some ⟨1⟩⟩)⟩,
          ⟨⟨0⟩, "letter", some letterProgram⟩]⟩ := by
  have history : (lettersCache.get ⟨1⟩).2.History lettersGrammar RecordModel.empty.toObjectModel :=
    .get .empty ⟨1⟩
  rw [environmentOf, letters_get.2, history.sound.2.2]

/-- The environment of a parse of the empty text with two rules each of which matches where the
other one does not. -/
theorem contrary_environment (mode : MemoMode) :
    environmentOf (contraryCache.get ⟨0⟩).2 "" .null mode =
      ⟨"", RecordModel.empty.toObjectModel, .null, mode,
        #[⟨⟨0⟩, "one", some (notProgram "one" ⟨0⟩ ⟨⟨1⟩, some ⟨1⟩⟩ (.bit 0))⟩,
          ⟨⟨1⟩, "other", some (notProgram "other" ⟨1⟩ ⟨⟨0⟩, some ⟨0⟩⟩ .none)⟩]⟩ := by
  rw [environmentOf, contrary_get_one.2.1, (contrary_history ⟨0⟩).sound.2.2]

end

section

attribute [local instance] letterEngine

/-- The environment of a parse with the rules for texts between letters a, the alternative of which
is guarded. -/
theorem nested_environment {text : String} (mode : MemoMode) :
    environmentOf (nestedCache.get ⟨1⟩).2 text .null mode =
      ⟨text, RecordModel.empty.toObjectModel, .null, mode,
        #[⟨⟨1⟩, "nested", some (nestedProgram (some ⟨1⟩) (some ⟨2⟩) (.bit 0))⟩,
          ⟨⟨2⟩, "wrapped", some (wrappedProgram (some ⟨2⟩) (some ⟨0⟩) .none)⟩,
          ⟨⟨0⟩, "letter", some patternProgram⟩, ⟨⟨3⟩, "end", some endProgram⟩]⟩ := by
  rw [environmentOf, nested_get.2.1, (nested_history ⟨1⟩).sound.2.2]

/-- The match of three letters a: the rules call each other at each of the letters and at the end of
the text, and no call is refused. -/
theorem nested_match : ∃ s,
    matchRule (environmentOf (nestedCache.get ⟨1⟩).2 "aaa" .null .off) 100 ⟨0⟩ (.initial false) =
      some (.ok (some (.str "a")), s) ∧ s.cursor = ⟨3, 3⟩ ∧ s.book.stats.recursionCuts = 0 := by
  rw [nested_environment]
  exact ⟨_, rfl, rfl, rfl⟩

/-- The same match if outcomes are remembered: four of its calls are answered from the table. -/
theorem nested_recalls (traced : Bool) : ∃ s,
    matchRule (environmentOf (nestedCache.get ⟨1⟩).2 "aaa" .null .precise) 100 ⟨0⟩
      (.initial traced) = some (.ok (some (.str "a")), s) ∧ s.book.stats = ⟨19, 4, 0⟩ := by
  apply exists_of_stats
  rw [nested_environment]
  cases traced <;> cbv

/-- Three letters a are matched in finitely many steps by rules that call each other. -/
theorem match_terminates_nested : ∃ fuel result,
    matchRule (environmentOf (nestedCache.get ⟨1⟩).2 "aaa" .null .precise) fuel ⟨0⟩
      (.initial false) = some result :=
  match_terminates nested_built .empty .empty nested_get.1 (by decide) .null .precise
    (.start false (Nat.zero_le _))

end

end Packrat.Machine
