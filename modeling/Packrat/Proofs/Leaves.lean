import Packrat.Proofs.Cache.Cycles
import Packrat.Proofs.Reference

/-!
# What leaves read

Literals, character classes, layout, line ends and the end of the text decide their languages: a
match succeeds just if the text goes on with something that the rule reads, consumes exactly that,
and otherwise consumes nothing.

* `Rule.IsLexical`: the rules in question.
* `Reads`: what such a rule reads of a text, in front of what, and the value of the match.
* `Silent`: lowering makes no requests.
* `leafwise`: the meaning in which rules without children come out as they should.

Main statements: `Reads.unique`, `leaf_decides`, `match_leaf` and `match_reads`.
-/

namespace Packrat

open Lowering (IsLeaf Stage LowerLeads LoweringRelation)

/-! ## Languages -/

/-- Rules that read a text character by character. -/
def Rule.IsLexical : Rule → Prop
  | .literal _ false | .charRange _ _ | .charSet _ _ | .whitespace | .eol | .eoi => True
  | _ => False

/-- The characters of layout. -/
def layoutChars : List Char := [' ', '\t', '\r', '\n']

/-- What a rule reads of a text, what it leaves behind, and the value of the match. -/
inductive Reads : Rule → List Char → List Char → Value → Prop where
  /-- A literal is read as it is written. -/
  | literal (text : String) (behind : List Char) :
    Reads (.literal text false) text.toList behind (.str text)
  /-- One character that lies in one of the ranges, or in none if `negated`. -/
  | charRange {ranges : List (Char × Char)} {negated : Bool} {c : Char}
      (member : (∃ range ∈ ranges, range.1 ≤ c ∧ c ≤ range.2) ↔ negated = false)
      (behind : List Char) : Reads (.charRange ranges negated) [c] behind (.char c)
  /-- One character that is among the given ones, or is not if `negated`. -/
  | charSet {chars : List Char} {negated : Bool} {c : Char}
      (member : c ∈ chars ↔ negated = false) (behind : List Char) :
    Reads (.charSet chars negated) [c] behind (.char c)
  /-- All layout up to the first other character. -/
  | whitespace {read behind : List Char} (layout : ∀ c ∈ read, c ∈ layoutChars)
      (ends : ∀ c ∈ behind.head?, c ∉ layoutChars) : Reads .whitespace read behind .null
  /-- A line feed. -/
  | lineFeed (behind : List Char) : Reads .eol ['\n'] behind .null
  /-- A carriage return that no line feed follows. -/
  | carriageReturn {behind : List Char} (ends : behind.head? ≠ some '\n') :
    Reads .eol ['\r'] behind .null
  /-- A carriage return and a line feed. -/
  | both (behind : List Char) : Reads .eol ['\r', '\n'] behind .null
  /-- The end of the text ends the last line. -/
  | lastLine : Reads .eol [] [] .null
  /-- Nothing, at the end of the text. -/
  | eoi : Reads .eoi [] [] .null

open Meaning

/-- A character is in some ranges if it is in one of them. -/
theorem inRanges_iff {ranges : List (Char × Char)} {c : Char} :
    inRanges ranges c = true ↔ ∃ range ∈ ranges, range.1 ≤ c ∧ c ≤ range.2 := by
  simp [inRanges]

/-- Layout characters are those of the list. -/
theorem isLayout_iff {c : Char} : isLayout c = true ↔ c ∈ layoutChars := by
  simp [isLayout, layoutChars]
  tauto

/-- The layout at the start of a text is the run of layout up to another character. -/
theorem takeWhile_isLayout_iff {rest read behind : List Char} (text : rest = read ++ behind) :
    rest.takeWhile isLayout = read ↔
      (∀ c ∈ read, c ∈ layoutChars) ∧ ∀ c ∈ behind.head?, c ∉ layoutChars := by
  subst text
  constructor
  · intro run
    have layout : ∀ c ∈ read, isLayout c = true := by
      intro c member
      rw [← run] at member
      exact List.mem_takeWhile_imp member
    rw [List.takeWhile_append_of_pos layout, List.append_right_eq_self] at run
    refine ⟨fun c member => isLayout_iff.mp (layout c member), ?_⟩
    cases behind with
    | nil => simp
    | cons d tail =>
      intro c first
      cases first
      rw [List.takeWhile_cons] at run
      intro member
      simp [isLayout_iff.mpr member] at run
  · rintro ⟨layout, ends⟩
    rw [List.takeWhile_append_of_pos fun c member => isLayout_iff.mpr (layout c member)]
    cases behind with
    | nil => simp
    | cons d tail =>
      have other : ¬isLayout d = true := fun isLayout => ends d rfl (isLayout_iff.mp isLayout)
      simp [other]

/-- Layout is read everywhere. -/
theorem exists_reads_whitespace (rest : List Char) :
    ∃ read behind, rest = read ++ behind ∧ read = rest.takeWhile isLayout ∧
      Reads .whitespace read behind .null := by
  have text := (List.takeWhile_append_dropWhile (p := isLayout) (l := rest)).symm
  obtain ⟨layout, ends⟩ := (takeWhile_isLayout_iff text).mp rfl
  exact ⟨_, _, text, rfl, .whitespace layout ends⟩

/-- A rule reads a text in one way at most. -/
theorem Reads.unique {rule : Rule} {read behind read' behind' : List Char} {v v' : Value}
    (first : Reads rule read behind v) (second : Reads rule read' behind' v')
    (same : read ++ behind = read' ++ behind') : read = read' ∧ v = v' := by
  cases first with
  | literal text =>
    cases second
    exact ⟨rfl, rfl⟩
  | charRange =>
    cases second
    cases same
    exact ⟨rfl, rfl⟩
  | charSet =>
    cases second
    cases same
    exact ⟨rfl, rfl⟩
  | whitespace layout ends =>
    cases second with
    | whitespace layout' ends' =>
      have run := (takeWhile_isLayout_iff rfl).mpr ⟨layout, ends⟩
      have run' := (takeWhile_isLayout_iff same).mpr ⟨layout', ends'⟩
      exact ⟨run.symm.trans run', rfl⟩
  | lineFeed => cases second <;> simp_all
  | carriageReturn ends => cases second <;> simp_all
  | both =>
    cases second with
    | carriageReturn ends =>
      cases same
      exact absurd rfl ends
    | _ => simp_all
  | lastLine => cases second <;> simp_all
  | eoi =>
    cases second
    exact ⟨rfl, rfl⟩

/-! ## Outcomes of leaves -/

/-- The outcome at a place is that of a rule that reads the rest of the text if it can. -/
def Decides (rule : Rule) (pos : Nat) (rest : List Char) (out : Outcome) : Prop :=
  (∃ read behind value, rest = read ++ behind ∧ Reads rule read behind (value.getD .null) ∧
    out = .matched value (pos + Text.width read)) ∨
  (out = .failed ∧ ∀ read behind v, rest = read ++ behind → ¬Reads rule read behind v)

/-- A class of characters, if it reads just the characters that it should. -/
theorem oneOf_decides {rule : Rule} {test : Char → Bool} {negated : Bool}
    (reads : ∀ read behind v, Reads rule read behind v ↔
      ∃ c, (test c = true ↔ negated = false) ∧ read = [c] ∧ v = .char c)
    (pos : Nat) (rest : List Char) : Decides rule pos rest (oneOf test negated pos rest) := by
  cases rest with
  | nil =>
    refine .inr ⟨rfl, fun read behind v text found => ?_⟩
    obtain ⟨c, -, rfl, -⟩ := (reads ..).mp found
    cases text
  | cons c behind =>
    have differs : ¬test c = negated ↔ (test c = true ↔ negated = false) := by
      cases test c <;> cases negated <;> simp
    by_cases excluded : test c = negated
    · refine .inr ⟨if_pos excluded, fun read behind' v text found => ?_⟩
      obtain ⟨d, member, rfl, -⟩ := (reads ..).mp found
      cases text
      exact differs.mpr member excluded
    · have member := differs.mp excluded
      exact .inl ⟨[c], behind, some (.char c), rfl, (reads ..).mpr ⟨c, member, rfl, rfl⟩,
        if_neg excluded⟩

/-- Lexical rules have no children. -/
theorem Rule.IsLexical.isLeaf {rule : Rule} (lexical : rule.IsLexical) : IsLeaf rule := by
  cases rule <;> trivial

/-- A line end. -/
theorem lineEnd_decides (pos : Nat) (rest : List Char) :
    Decides .eol pos rest (lineEnd pos rest) := by
  unfold lineEnd
  split
  case h_1 => exact .inl ⟨[], [], none, rfl, .lastLine, rfl⟩
  case h_2 behind => exact .inl ⟨['\n'], behind, none, rfl, .lineFeed behind, rfl⟩
  case h_3 behind => exact .inl ⟨['\r', '\n'], behind, none, rfl, .both behind, rfl⟩
  case h_4 behind other =>
    have ends : behind.head? ≠ some '\n' := by
      cases behind with
      | nil => simp
      | cons d tail =>
        rintro first
        cases first
        exact other tail rfl
    exact .inl ⟨['\r'], behind, none, rfl, .carriageReturn ends, rfl⟩
  case h_5 noEnd noFeed noBoth noReturn =>
    refine .inr ⟨rfl, fun read behind v text found => ?_⟩
    cases found with
    | lineFeed => exact noFeed _ text
    | carriageReturn => exact noReturn _ text
    | both => exact noBoth _ text
    | lastLine => exact noEnd text

/-- Rules that read a text character by character come out as they read it. -/
theorem leaf_decides [RegexEngine] {rule : Rule} (lexical : rule.IsLexical) (env : Environment)
    (pos : Nat) : ∃ out, leaf? env pos rule = some out ∧
      Decides rule pos (Text.following env.text pos) out := by
  cases rule with
  | literal text ignoreCase =>
    cases ignoreCase with
    | true => exact lexical.elim
    | false =>
      by_cases begins : text.toList.isPrefixOf (Text.following env.text pos) = true
      · obtain ⟨behind, rest⟩ := List.isPrefixOf_iff_prefix.mp begins
        refine ⟨_, if_pos begins, .inl ⟨text.toList, behind, _, rest.symm, ?_, rfl⟩⟩
        exact .literal text behind
      · refine ⟨_, if_neg begins, .inr ⟨rfl, fun read behind v rest found => ?_⟩⟩
        cases found
        exact begins (List.isPrefixOf_iff_prefix.mpr ⟨behind, rest.symm⟩)
  | charRange ranges negated =>
    refine ⟨_, rfl, oneOf_decides (fun read behind v => ?_) pos _⟩
    constructor
    · rintro ⟨⟩
      rename_i c member
      exact ⟨c, inRanges_iff.trans member, rfl, rfl⟩
    · rintro ⟨c, member, rfl, rfl⟩
      exact .charRange (inRanges_iff.symm.trans member) behind
  | charSet chars negated =>
    refine ⟨_, rfl, oneOf_decides (fun read behind v => ?_) pos _⟩
    constructor
    · rintro ⟨⟩
      rename_i c member
      exact ⟨c, List.contains_iff_mem.trans member, rfl, rfl⟩
    · rintro ⟨c, member, rfl, rfl⟩
      exact .charSet (List.contains_iff_mem.symm.trans member) behind
  | whitespace =>
    obtain ⟨read, behind, text, run, reads⟩ := exists_reads_whitespace (Text.following env.text pos)
    exact ⟨_, rfl, .inl ⟨read, behind, none, text, reads, by rw [run]⟩⟩
  | eol => exact ⟨_, rfl, lineEnd_decides pos _⟩
  | eoi =>
    refine ⟨_, rfl, ?_⟩
    cases Text.following env.text pos with
    | nil => exact .inl ⟨[], [], none, rfl, .eoi, rfl⟩
    | cons c tail =>
      refine .inr ⟨rfl, fun read behind v text found => ?_⟩
      cases found
      cases text
  | _ => exact lexical.elim

/-- A rule without children comes out as the leaf says, whatever children do. -/
theorem rule_leaf [RegexEngine] {m : Type → Type} [Monad m] (child : RuleId → Nat → m Outcome)
    {env : Environment} (cx : Lowering.Context) {pos : Nat} {rule : Rule} {out : Outcome}
    (known : leaf? env pos rule = some out) : Meaning.rule child env cx pos rule = pure out := by
  cases rule with
  | sequence | alternative | repetition | optional | lookAhead | not | surround | capture =>
    cases known
  | _ =>
    change pure ((leaf? env pos _).getD .failed) = pure out
    rw [known]
    rfl

/-! ## Rules without children are not guarded -/

namespace Lowering

/-- No requests are made. -/
def Silent (x y : Stage) : Prop := y.1 = x.1

/-- All stages are related. -/
@[reducible] def allStages : StageRelation where
  Rel _ _ := True
  refl _ := trivial
  trans _ _ _ _ _ := trivial
  intSlot _ := trivial
  objSlot _ := trivial
  newLabel _ := trivial
  mark _ _ := trivial
  valueConst _ _ := trivial
  regexConst _ _ := trivial
  emit _ _ := trivial

/-- Actions of the assembler make no requests, whatever they do. -/
@[reducible] def silent : LoweringRelation where
  Rel := Silent
  assembled := allStages
  refl _ := rfl
  trans _ _ _ first second := second.trans first
  lift _ _ _ _ := rfl

/-- Lowering a rule without children makes no requests. -/
theorem silent_leaf [RegexEngine] {rule : Rule} (leaf : IsLeaf rule) (cx : Context) :
    LowerLeads silent () (body cx rule) := by
  cases rule with
  | literal =>
    simp only [body, literal]
    infer_instance
  | charRange ranges negated =>
    simp only [body, charRange]
    cases ranges.find? (fun range => range.2 < range.1) <;> infer_instance
  | charSet =>
    simp only [body, charSet]
    infer_instance
  | regex pattern =>
    simp only [body, regex]
    cases RegexEngine.compile (Regex.anchored pattern) <;> infer_instance
  | number | whitespace | eol | eoi | userObject | location =>
    simp only [body]
    infer_instance
  | sequence | alternative | repetition | optional | lookAhead | not | surround | capture =>
    exact leaf.elim

end Lowering

/-- Rules without children request nothing. -/
theorem requests_leaf [RegexEngine] {g : Grammar} {model : ObjectModel} {rule child : RuleId}
    {d : RuleDef} (found : g.get? rule = some d) (leaf : IsLeaf d.rule) :
    ¬Requests g model rule child := by
  have silent := (Lowering.silent_leaf leaf ⟨g, model, g.displayName rule, g.outputOf rule⟩).leads
    #[] (.start rule (g.displayName rule))
  unfold Requests
  rw [Lowering.lowerRule_of_found found]
  generalize (Lowering.body ⟨g, model, g.displayName rule, g.outputOf rule⟩ d.rule).run.run #[]
    (.start rule (g.displayName rule)) = result at silent
  obtain ⟨⟨outcome, requests⟩, a⟩ := result
  obtain rfl : requests = #[] := silent
  cases outcome with
  | error => simp
  | ok slot =>
    dsimp only
    split <;> simp

/-- Rules without children have no guards. -/
theorem RuleCache.History.leaf_unguarded [RegexEngine] {g : Grammar} {model : ObjectModel}
    {c : RuleCache} (history : c.History g model) {rule : RuleId} {d : RuleDef}
    (found : g.get? rule = some d)
    (leaf : IsLeaf d.rule) : c.guards.contains rule = false := by
  obtain ⟨-, rfl, rfl⟩ := history.sound
  by_contra guarded
  have cycle := history.guarded.cycle rule (Bool.not_eq_false _ ▸ guarded)
  obtain ⟨child, requests, -⟩ := Relation.TransGen.head'_iff.mp cycle
  exact requests_leaf found leaf requests

namespace Machine

variable {c : RuleCache} {env : Environment} {rule : RuleId}

/-! ## Matches of leaves -/

/-- The meaning in which rules without children, unless they are guarded, come out as they
should. -/
def leafwise [RegexEngine] (c : RuleCache) (env : Environment) : Meanings := fun _ rule pos out =>
  c.guards.contains rule = false → ∀ d, c.grammar.get? rule = some d →
    ∀ known, leaf? env pos d.rule = some known → out = known

/-- The meaning that speaks of leaves only is closed. -/
theorem leafwise_closed [RegexEngine] (c : RuleCache) (env : Environment) : Closed c env
    (leafwise c env) where
  cut _ _ _ guarded _ free := by
    rw [guarded] at free
    cases free
  rule active rule pos d found _ out comes := by
    intro _ d' found' known isKnown
    cases found.symm.trans found'
    rw [rule_leaf _ _ isKnown] at comes
    exact comes
  context _ _ _ _ _ _ holds := holds

/-- A match of a rule without children, from a boundary of the text, comes out as the leaf says. -/
theorem match_leaf [RegexEngine] (parse : Parse c env) (history : c.History c.grammar c.model)
    {state : ParseState} (rests : Rests c env (leafwise c env) state)
    (boundary : Text.isBoundary env.text state.cursor.pos = true) {h : Handle}
    (ready : c.ready[rule]? = some h) {d : RuleDef} (found : c.grammar.get? rule = some d)
    (leaf : IsLeaf d.rule) {out : Outcome} (known : leaf? env state.cursor.pos d.rule = some out) :
    ∃ enough outcome state', (∀ fuel, enough ≤ fuel →
        matchRule env fuel h state = some (outcome, state')) ∧
      out.answer state.cursor.pos = outcome.map fun v => (v, state'.cursor.pos) := by
  obtain ⟨p, ⟨ended, after⟩, _, output, ⟨enough, result⟩, _, concluded, undone⟩ :=
    match_comes parse (leafwise_closed c env) rests ready
  refine ⟨enough, ended.map (matchValue p), after, fun fuel le => matchRule_mono le result, ?_⟩
  rcases concluded.outcome with ⟨out', comes, realizes⟩ | ⟨inside, -⟩
  · obtain rfl := comes (history.leaf_unguarded found leaf) d found out known
    cases out' with
    | matched value stop =>
      obtain ⟨product, rfl, denotes, rfl⟩ := realizes
      simp [Outcome.answer, Except.map, matchValue, output, denotes.toValue?_eq]
    | failed =>
      obtain rfl : ended = .ok none := realizes
      have place : after.cursor.pos = state.cursor.pos := undone rfl
      simp [Outcome.answer, Except.map, matchValue, place]
    | faulted fault =>
      obtain rfl : ended = .error fault := realizes
      rfl
  · rw [boundary] at inside
    cases inside

/-- Leaves decide their languages: in every match of a literal that is not to be read in any case, a
character class, layout, a line end or the end of the text, whatever grammar can be built and
whatever was asked for and matched before, from every boundary of the text. The match comes to an
end, and succeeds just if the rule reads something at the start of the rest of the text, which it
then consumes, with the value of what was read; otherwise it consumes nothing. Layout is always
read. A text is never so long that a word cannot hold its size. -/
theorem match_reads [RegexEngine] {d : GrammarDraft} {g : Grammar} (built : d.build = .ok g)
    (m : RecordModel) {c : RuleCache} (history : c.History g m.toObjectModel) {rule : RuleId}
    {h : Handle}
    (ready : c.ready[rule]? = some h) {leaf : RuleDef} (found : g.get? rule = some leaf)
    (lexical : leaf.rule.IsLexical) {text : String} (short : text.utf8ByteSize < 2 ^ 63)
    (user : Value) (mode : MemoMode) {state : ParseState}
    (reached : Reached c (environmentOf c text user mode) state) {before rest : List Char}
    (split : Text.Split text state.cursor.pos before rest) :
    ∃ enough outcome state', (∀ fuel, enough ≤ fuel →
        matchRule (environmentOf c text user mode) fuel h state = some (.ok outcome, state')) ∧
      (outcome ≠ none ↔ ∃ read behind v, rest = read ++ behind ∧ Reads leaf.rule read behind v) ∧
      (∀ read behind v, rest = read ++ behind → Reads leaf.rule read behind v →
        outcome = some v ∧ state'.cursor.pos = state.cursor.pos + Text.width read) ∧
      (outcome = none → state'.cursor.pos = state.cursor.pos) ∧
      (leaf.rule = .whitespace → outcome = some .null) := by
  have parse := parse_of_history built history short user mode
  obtain ⟨-, rfl, model⟩ := history.sound
  rw [← model] at history
  obtain ⟨out, known, decides⟩ :=
    leaf_decides lexical (environmentOf c text user mode) state.cursor.pos
  have here : Text.following (environmentOf c text user mode).text state.cursor.pos = rest :=
    split.following
  rw [here] at decides
  have rests := reached.rests parse (leafwise_closed _ _)
  obtain ⟨enough, fault | outcome, state', result, answer⟩ :=
    match_leaf parse history rests split.isBoundary ready found lexical.isLeaf known
  · rcases decides with ⟨_, _, _, _, _, rfl⟩ | ⟨rfl, _⟩ <;> cases answer
  have reading : ∀ read behind v, rest = read ++ behind → Reads leaf.rule read behind v →
      outcome = some v ∧ state'.cursor.pos = state.cursor.pos + Text.width read := by
    intro read behind v isRest reads
    rcases decides with ⟨read', behind', value, isRest', reads', rfl⟩ | ⟨-, none⟩
    · obtain ⟨rfl, place⟩ := Prod.mk.inj (Except.ok.inj answer)
      obtain ⟨rfl, rfl⟩ := reads.unique reads' (isRest.symm.trans isRest')
      exact ⟨rfl, place.symm⟩
    · exact absurd reads (none read behind v isRest)
  have failing : (∃ read behind v, rest = read ++ behind ∧ Reads leaf.rule read behind v) ∨
      outcome = none ∧ state'.cursor.pos = state.cursor.pos := by
    rcases decides with ⟨read, behind, value, isRest, reads, -⟩ | ⟨rfl, -⟩
    · exact .inl ⟨read, behind, _, isRest, reads⟩
    · obtain ⟨rfl, place⟩ := Prod.mk.inj (Except.ok.inj answer)
      exact .inr ⟨rfl, place.symm⟩
  refine ⟨enough, outcome, state', result, ⟨?_, ?_⟩, reading, ?_, ?_⟩
  · intro present
    exact failing.resolve_right fun failed => present failed.1
  · rintro ⟨read, behind, v, isRest, reads⟩
    simp [(reading read behind v isRest reads).1]
  · intro absent
    rcases failing with ⟨read, behind, v, isRest, reads⟩ | ⟨-, place⟩
    · rw [(reading read behind v isRest reads).1] at absent
      cases absent
    · exact place
  · intro whitespace
    obtain ⟨read, behind, isRest, -, reads⟩ := exists_reads_whitespace rest
    rw [← whitespace] at reads
    exact (reading read behind _ isRest reads).1

section

attribute [local instance] letterEngine

/-- The rule for the letter a reads it, in front of another letter. -/
theorem match_reads_letter : ∃ enough outcome state', (∀ fuel, enough ≤ fuel →
      matchRule (environmentOf (letterCache.get ⟨0⟩).2 "ab" .null .precise) fuel ⟨0⟩
        (.initial false) = some (.ok outcome, state')) ∧
    outcome = some (.char 'a') ∧ state'.cursor.pos = 1 := by
  have split : Text.Split "ab" 0 [] ['a', 'b'] := ⟨rfl, rfl⟩
  obtain ⟨enough, outcome, state', result, -, reading, -⟩ := match_reads letter_built .empty
    (.get .empty ⟨0⟩) letter_ready rfl trivial (by decide) .null .precise
    (.start false (Nat.zero_le _)) split
  obtain ⟨found, place⟩ := reading ['a'] ['b'] (.char 'a') rfl (.charSet (by simp) _)
  exact ⟨enough, outcome, state', result, found, place⟩

end

end Machine

end Packrat
