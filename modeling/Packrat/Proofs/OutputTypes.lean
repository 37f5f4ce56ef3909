import Packrat.Proofs.Grammar.Absorption
import Packrat.Proofs.Lowering.Source
import Packrat.Proofs.Matching
import Packrat.Proofs.Value.Implements

/-!
# Values of rules

A match of a rule produces a value of the rule's output type. Values are made by leaves, sequences
and repetitions; all other rules hand on values of children, and their types absorb those of the
children. The exception are alternatives with a candidate whose type was never determined: their
own type may leave out what that candidate produces.

* `OutputType.admits`: a value is one of a type.
* `Outcome.Typed`: an outcome has no value but those of a type.

Main statements: `Meaning.typed_rule` and `match_typed`.
-/

namespace Packrat

open Lowering (Context acceptsCandidate)

/-! ## Values of types -/

namespace OutputType

variable {model : ObjectModel} {a b ty : OutputType} {v : Value} {value : Option Value}

/-- A value is one of a type. An object may be absent, and may be of any type that implements the
named one. -/
@[simp]
def admits (model : ObjectModel) : OutputType → Value → Bool
  | .void, .null => true
  | .char, .char _ => true
  | .int, .int _ => true
  | .float, .float _ => true
  | .number, .int _ => true
  | .number, .float _ => true
  | .text, .str _ => true
  | .list, .list _ => true
  | .object _, .null => true
  | .object ty, .node found _ => model.implements found ty
  | .any, _ => true
  | _, _ => false

/-- A type has all values of the types that it absorbs. -/
theorem admits_of_absorbs (absorbs : a.Absorbs b) (admitted : b.admits model v = true) :
    a.admits model v = true := by
  rcases absorbs_iff.mp absorbs with rfl | rfl | ⟨rfl, numeric⟩
  · exact admitted
  · rfl
  · -- What `number` absorbs are the types of numbers.
    cases b <;> simp [isNumeric] at numeric <;> cases v <;> simp_all

/-- An optional occurrence may have the value of what occurs. -/
theorem admits_optional (admitted : ty.admits model v = true) :
    ty.optional.admits model v = true := by
  cases ty <;> simp_all [optional]

/-- The value that stands for absence is one of a type that absorbs an optional one. -/
theorem admits_absent (absorbs : a.Absorbs b.optional) :
    a.admits model ((Meaning.absent a).getD .null) = true := by
  rcases absorbs_iff.mp absorbs with rfl | rfl | ⟨rfl, numeric⟩
  · cases b <;> simp [optional, Meaning.absent]
  · simp
  · cases b <;> simp [optional, isNumeric] at numeric

/-- A value of a child is still one when it is the result of the rule. -/
theorem admits_settle (admitted : ty.admits model (value.getD .null) = true) :
    ty.admits model ((Meaning.settle ty value).getD .null) = true := by
  unfold Meaning.settle
  by_cases void : ty.isVoid = true
  · rw [if_pos void, Lowering.eq_void void]
    simp
  · rw [if_neg void]
    exact admitted

/-- One more element makes a text of a text and a list of a list. -/
theorem admits_gather {name : String} {collect : Collect} {acc acc' : Option Value}
    (gathered : Meaning.gather name collect acc value = .ok acc') :
    ty.admits model (acc'.getD .null) = ty.admits model (acc.getD .null) := by
  unfold Meaning.gather at gathered
  split at gathered
  case h_1 text item =>
    split at gathered <;> cases gathered
    cases ty <;> rfl
  case h_2 items value =>
    cases gathered
    cases ty <;> rfl
  case h_3 =>
    cases gathered
    rfl

end OutputType

/-- The value of a match is one of a type; a match without a value counts as `null`. -/
@[simp]
def Outcome.Typed (model : ObjectModel) (ty : OutputType) : Outcome → Prop
  | .matched value _ => ty.admits model (value.getD .null) = true
  | .failed => True
  | .faulted _ => True

namespace Meaning

open Inference (FixedType)

variable {model : ObjectModel} {env : Environment} {ty : OutputType} {pos : Nat} {out : Outcome}

/-! ## Leaves -/

/-- A test of one character gives a character. -/
theorem typed_oneOf {test : Char → Bool} {negated : Bool} {rest : List Char} :
    (oneOf test negated pos rest).Typed model .char := by
  unfold oneOf
  split
  · simp
  · split <;> simp

/-- A literal that ignores case gives text. -/
theorem typed_foldedText {text : String} {rest : List Char} :
    (foldedText text pos rest).Typed model .text := by
  unfold foldedText
  dsimp only
  split <;> simp

/-- A regex gives text. -/
theorem typed_leading {r : Regex} {text : String} {rest : List Char} :
    (leading r text pos rest).Typed model .text := by
  unfold leading
  split <;> simp

/-- The end of a line gives nothing. -/
theorem typed_lineEnd {rest : List Char} : (lineEnd pos rest).Typed model .void := by
  unfold lineEnd
  split <;> simp

/-- The type of number literals of some kind. -/
def numberType : NumberKind → OutputType
  | .integer => .int
  | .float => .float
  | .any => .number

/-- A number literal has a value of the type of its kind. -/
theorem admits_value? {kind : NumberKind} {l : Number.Literal} {v : Value}
    (value : l.value? kind = some v) : (numberType kind).admits model v = true := by
  unfold Number.Literal.value? at value
  cases kind with
  | integer =>
    dsimp only at value
    split at value <;> cases value
    rfl
  | float =>
    cases value
    rfl
  | any =>
    dsimp only at value
    split at value
    · cases value
      rfl
    · split at value <;> cases value <;> rfl

/-- A number leaf gives a number of its kind. -/
theorem typed_number [RegexEngine] {kind : NumberKind}
    (leaf : leaf? env pos (.number kind) = some out) : out.Typed model (numberType kind) := by
  unfold leaf? at leaf
  cases leaf
  split
  case h_1 length v scanned =>
    unfold Number.scanNumber at scanned
    split at scanned
    · cases scanned
    · obtain ⟨_, value, same⟩ := Option.map_eq_some_iff.mp scanned
      cases same
      exact admits_value? value
  case h_2 => trivial

/-- A leaf that comes out produces values of the type that it has by itself. -/
theorem typed_leaf? [RegexEngine] {rule : Rule} (fixed : FixedType rule ty)
    (leaf : leaf? env pos rule = some out) : out.Typed model ty := by
  cases rule with
  | literal text ignoreCase =>
    rw [fixed .text fun _ => rfl]
    unfold leaf? at leaf
    dsimp only at leaf
    split at leaf
    · cases leaf
      exact typed_foldedText
    · split at leaf <;> cases leaf
      · rfl
      · trivial
  | charRange ranges negated =>
    rw [fixed .char fun _ => rfl]
    cases leaf
    exact typed_oneOf
  | charSet chars negated =>
    rw [fixed .char fun _ => rfl]
    cases leaf
    exact typed_oneOf
  | regex pattern =>
    rw [fixed .text fun _ => rfl]
    obtain ⟨r, _, rfl⟩ := Option.map_eq_some_iff.mp leaf
    exact typed_leading
  | number kind =>
    rw [fixed (numberType kind) fun _ => by cases kind <;> rfl]
    exact typed_number leaf
  | whitespace =>
    rw [fixed .void fun _ => rfl]
    cases leaf
    rfl
  | eol =>
    rw [fixed .void fun _ => rfl]
    cases leaf
    exact typed_lineEnd
  | eoi =>
    rw [fixed .void fun _ => rfl]
    unfold leaf? at leaf
    cases leaf
    split
    · rfl
    · trivial
  | userObject =>
    rw [fixed .any fun _ => rfl]
    cases leaf
    rfl
  | location =>
    rw [fixed .int fun _ => rfl]
    cases leaf
    rfl
  | _ => cases leaf

/-- A leaf produces values of the type that it has by itself. -/
theorem typed_leaf [RegexEngine] {rule : Rule} (fixed : FixedType rule ty)
    (same : out = (leaf? env pos rule).getD .failed) : out.Typed model ty := by
  cases leaf : leaf? env pos rule with
  | none => simp [same, leaf]
  | some out =>
    rw [same, leaf]
    exact typed_leaf? fixed leaf

/-! ## Composite rules -/

variable {child : RuleId → Nat → Choice Outcome}

/-- What goes on behind a match need only be looked at there. -/
theorem typed_onMatch {act : Choice Outcome} {go : Option Value → Nat → Choice Outcome}
    (comes : onMatch act go out)
    (typed : ∀ value stop, act (.matched value stop) → go value stop out → out.Typed model ty) :
    out.Typed model ty := by
  obtain ⟨first, came, went⟩ := comes
  cases first with
  | matched value stop => exact typed value stop came went
  | failed =>
    cases went
    trivial
  | faulted fault =>
    cases went
    trivial

/-- Parts make an object of the type of the sequence, if it has one. -/
theorem typed_parts {m : RecordModel} {name : Option String} {separator : Option RuleId}
    {first : Bool} {items : List Part} {fields : Fields}
    (comes : parts child name separator first items fields pos out) :
    out.Typed m.toObjectModel (name.elim .void .object) := by
  induction items generalizing first fields pos with
  | nil =>
    cases comes
    cases name with
    | none => rfl
    | some name => exact m.implements_refl name
  | cons part rest ih =>
    refine typed_onMatch comes fun _ mid _ comes => ?_
    exact typed_onMatch comes fun value stop _ comes => ih comes

/-- The value of an alternative is one of a candidate. -/
theorem typed_firstOf {candidates : List RuleId}
    (typed : ∀ candidate ∈ candidates, ∀ value stop, child candidate pos (.matched value stop) →
      ty.admits model (value.getD .null) = true)
    (comes : firstOf child ty pos candidates out) : out.Typed model ty := by
  induction candidates with
  | nil =>
    cases comes
    trivial
  | cons candidate rest ih =>
    obtain ⟨first, came, went⟩ := comes
    cases first with
    | matched value stop =>
      cases went
      exact OutputType.admits_settle (typed candidate List.mem_cons_self value stop came)
    | failed => exact ih (fun other member => typed other (List.mem_cons_of_mem _ member)) went
    | faulted fault =>
      cases went
      trivial

/-- The end of a repetition gives what was collected. -/
theorem typed_enough {min count : Nat} {acc : Option Value}
    (gathered : ty.admits model (acc.getD .null) = true) :
    (enough min count acc pos).Typed model ty := by
  unfold enough
  split
  · trivial
  · exact gathered

/-- What a repetition has gathered keeps its type from round to round. -/
theorem typed_rounds {name : String} {element : RuleId} {separator : Option RuleId} {min : Nat}
    {max : Option Nat} {collect : Collect} {fuel count : Nat} {acc : Option Value}
    (gathered : ty.admits model (acc.getD .null) = true)
    (comes : rounds child name element separator min max collect fuel count acc pos out) :
    out.Typed model ty := by
  induction fuel generalizing count acc pos with
  | zero =>
    cases comes
    trivial
  | succ fuel ih =>
    unfold rounds at comes
    split at comes
    · cases comes
      exact typed_enough gathered
    · obtain ⟨round, _, went⟩ := comes
      cases round with
      | failed =>
        cases went
        exact typed_enough gathered
      | faulted fault =>
        cases went
        trivial
      | matched value stop =>
        dsimp only at went
        cases added : gather name collect acc value with
        | error fault =>
          rw [added] at went
          cases went
          trivial
        | ok acc' =>
          rw [added] at went
          rw [← OutputType.admits_gather added] at gathered
          dsimp only at went
          split at went
          · cases went
            exact gathered
          · exact ih gathered went

/-- An object of a type that implements another one is an object of that one. -/
theorem admits_of_implements {m : RecordModel} {name base : String} {v : Value}
    (implements : m.implements name base = true)
    (admitted : (OutputType.object name).admits m.toObjectModel v = true) :
    (OutputType.object base).admits m.toObjectModel v = true := by
  cases v with
  | null => rfl
  | node found fields => exact m.implements_trans admitted implements
  | _ => cases admitted

/-- A candidate that is accepted has values of the base of the alternative. -/
theorem admits_of_accepted {cx : Context} {m : RecordModel} (model : cx.model = m.toObjectModel)
    {base : String} {candidate : RuleId} (accepted : acceptsCandidate cx base candidate = true)
    {v : Value} (admitted : (cx.grammar.outputOf candidate).admits m.toObjectModel v = true) :
    (OutputType.object base).admits m.toObjectModel v = true := by
  unfold acceptsCandidate at accepted
  split at accepted
  case h_1 name output =>
    rw [model] at accepted
    rw [output] at admitted
    exact admits_of_implements (Bool.and_eq_true_iff.mp accepted).1 admitted
  case h_2 => cases accepted

/-! ## Rules -/

variable {g : Grammar} {m : RecordModel} {cx : Context} {id : RuleId} {d : RuleDef}

/-- Nothing gathered yet is a value of the type of a repetition. -/
theorem admits_gatheredStart (inferred : g.Inferred) (found : g.get? id = some d)
    {element : RuleId} {separator : Option RuleId} {min : Nat} {max : Option Nat}
    {collect : Collect} (rule : d.rule = .repetition element separator min max collect) :
    (g.outputOf id).admits model ((gatheredStart collect (g.outputOf element)).getD .null) =
      true := by
  cases collect with
  | text =>
    rw [inferred.fixedType found .text fun _ => by rw [rule]; rfl]
    rfl
  | list =>
    unfold gatheredStart
    by_cases void : (g.outputOf element).isVoid = true
    · have list := inferred.list_type found rule
      rw [if_pos (Lowering.eq_void void)] at list
      rw [list, if_pos void]
      rfl
    · rw [if_neg void]
      rw [Bool.not_eq_true] at void
      exact OutputType.admits_of_absorbs (inferred.absorbs_list found rule void) rfl

/-- A candidate's values are values of the alternative. -/
theorem admits_candidate (inferred : g.Inferred) (spreads : g.Spreads) (found : g.get? id = some d)
    (grammar : cx.grammar = g) (model : cx.model = m.toObjectModel) {base : Option String}
    {candidates : List RuleId} (rule : d.rule = .alternative base candidates)
    (accepts : ∀ name, base = some name →
      ∀ candidate ∈ candidates, acceptsCandidate cx name candidate = true)
    {candidate : RuleId} (member : candidate ∈ candidates) {v : Value}
    (admitted : (g.outputOf candidate).admits m.toObjectModel v = true) :
    (g.outputOf id).admits m.toObjectModel v = true := by
  cases base with
  | none =>
    exact OutputType.admits_of_absorbs (inferred.absorbs_candidate spreads found rule member)
      admitted
  | some base =>
    subst grammar
    rw [inferred.fixedType found (.object base) fun _ => by rw [rule]; rfl]
    exact admits_of_accepted model (accepts base rfl candidate member) admitted

/-- An optional rule hands on the value of its child or has the one that stands for absence. -/
theorem typed_optional [RegexEngine] {inner : RuleId} (absorbs : cx.output.Absorbs ty.optional)
    (source : ∀ out, child inner pos out → out.Typed model ty)
    (comes : rule child env cx pos (.optional inner) out) : out.Typed model cx.output := by
  obtain ⟨first, came, went⟩ := comes
  cases first with
  | matched value stop =>
    cases went
    apply OutputType.admits_settle
    apply OutputType.admits_of_absorbs absorbs
    exact OutputType.admits_optional (source _ came)
  | failed =>
    cases went
    exact OutputType.admits_absent absorbs
  | faulted fault =>
    cases went
    trivial

/-- A surrounded rule hands on the value of what is surrounded. -/
theorem typed_surround [RegexEngine] {opening inner : RuleId} {closing : Option RuleId}
    (absorbs : cx.output.Absorbs ty)
    (source : ∀ start out, child inner start out → out.Typed model ty)
    (comes : rule child env cx pos (.surround opening inner closing) out) :
    out.Typed model cx.output := by
  refine typed_onMatch comes fun _ start _ comes => ?_
  refine typed_onMatch comes fun value stop came comes => ?_
  refine typed_onMatch comes fun _ behind _ went => ?_
  cases went
  apply OutputType.admits_settle
  exact OutputType.admits_of_absorbs absorbs (source start _ came)

/-- A negated rule has no value. -/
theorem typed_not [RegexEngine] {inner : RuleId} (comes : rule child env cx pos (.not inner) out) :
    out.Typed model .void := by
  obtain ⟨first, _, went⟩ := comes
  cases first <;> cases went <;> simp

/-- A rule produces values of its type if the children do whose values it takes over. -/
theorem typed_rule [RegexEngine] (inferred : g.Inferred) (spreads : g.Spreads)
    (found : g.get? id = some d) (grammar : cx.grammar = g) (model : cx.model = m.toObjectModel)
    (output : cx.output = g.outputOf id)
    (accepts : ∀ base candidates, d.rule = .alternative (some base) candidates →
      ∀ candidate ∈ candidates, acceptsCandidate cx base candidate = true)
    (sources : ∀ source ∈ d.rule.sources, ∀ pos out, child source pos out →
      out.Typed m.toObjectModel (g.outputOf source))
    (comes : Meaning.rule child env cx pos d.rule out) :
    out.Typed m.toObjectModel cx.output := by
  have fixed : FixedType d.rule cx.output := output ▸ inferred.fixedType found
  cases rule : d.rule with
  | sequence name parts separator =>
    rw [rule] at comes
    rw [fixed (name.elim .void .object) fun _ => by rw [rule]; cases name <;> rfl]
    exact typed_parts comes
  | alternative base candidates =>
    rw [rule] at comes sources
    refine typed_firstOf (fun candidate member value stop came => ?_) comes
    rw [output]
    have accepted (name : String) (is : base = some name) := accepts name candidates (is ▸ rule)
    exact admits_candidate inferred spreads found grammar model rule accepted member
      (sources candidate member pos _ came)
  | repetition element separator min max collect =>
    rw [rule] at comes
    refine typed_rounds ?_ comes
    rw [grammar, output]
    exact admits_gatheredStart inferred found rule
  | optional inner =>
    rw [rule] at comes sources
    have absorbs := inferred.absorbs_optional found rule
    rw [← output] at absorbs
    exact typed_optional absorbs (sources inner List.mem_cons_self pos) comes
  | lookAhead inner =>
    rw [rule] at comes
    rw [fixed .void fun _ => by rw [rule]; rfl]
    refine typed_onMatch comes fun _ _ _ went => ?_
    cases went
    rfl
  | not inner =>
    rw [rule] at comes
    rw [fixed .void fun _ => by rw [rule]; rfl]
    exact typed_not comes
  | surround opening inner closing =>
    rw [rule] at comes sources
    have absorbs := inferred.absorbs_inner found rule
    rw [← output] at absorbs
    exact typed_surround absorbs (sources inner List.mem_cons_self) comes
  | capture inner =>
    rw [rule] at comes
    rw [fixed .text fun _ => by rw [rule]; rfl]
    refine typed_onMatch comes fun _ _ _ went => ?_
    cases went
    rfl
  | _ =>
    rw [rule] at comes fixed
    exact typed_leaf fixed comes

end Meaning

namespace Machine

variable {c : RuleCache} {env : Environment}

/-- The meaning in which rules that are published produce values of their types. -/
def typed (c : RuleCache) : Meanings := fun _ rule _ out =>
  (∃ h, c.ready[rule]? = some h) → out.Typed c.model (c.grammar.outputOf rule)

/-- The children whose values a published rule takes over are published. -/
theorem sources_ready [RegexEngine] {rule source : RuleId} {h : Handle} {d : RuleDef} {p : Program}
    (published : c.Published rule h d p) (member : source ∈ d.rule.sources) :
    ∃ h, c.ready[source]? = some h := by
  obtain ⟨slot, b, emits, placed, _⟩ := published.compiled.code
  obtain ⟨i, h', entry⟩ := Lowering.calls_sources emits placed source member
  exact ⟨h', (published.callees i source h' entry).2⟩

/-- The candidates of a published alternative implement its base, if it has one. -/
theorem accepts_of_published [RegexEngine] {rule : RuleId} {h : Handle} {d : RuleDef} {p : Program}
    (published : c.Published rule h d p) {base : String} {candidates : List RuleId}
    (isAlternative : d.rule = .alternative (some base) candidates) :
    ∀ candidate ∈ candidates, acceptsCandidate (contextOf c rule) base candidate = true := by
  obtain ⟨slot, b, emits, _, _⟩ := published.compiled.code
  rw [isAlternative] at emits
  exact Lowering.accepts_of_emits emits

/-- Typed outcomes are closed under the meaning of a rule. -/
theorem typed_closed [RegexEngine] (parse : Parse c env) (spreads : c.grammar.Spreads)
    {m : RecordModel} (model : c.model = m.toObjectModel) : Closed c env (typed c) where
  cut _ _ _ _ _ _ := trivial
  rule active rule pos d found idle out comes := by
    rintro ⟨h, ready⟩
    obtain ⟨d', p, published⟩ := parse.cache.entries rule h ready
    cases found.symm.trans published.compiled.found
    rw [model]
    refine Meaning.typed_rule parse.inferred spreads found rfl model rfl
      (fun base candidates => accepts_of_published published) ?_ comes
    intro source member pos out came
    rw [← model]
    exact came (sources_ready published member)
  context _ _ _ _ _ _ came := came

/-- Matches produce values of the output types of rules: whenever a match of a rule that was
compiled succeeds, its value is one of the type of the rule, for every grammar that can be built in
which type `any` spreads from candidates to alternatives; whatever was asked for before, after any
other matches, from every place of the text, and however outcomes are remembered. -/
theorem match_typed [RegexEngine] {d : GrammarDraft} {g : Grammar} (built : d.build = .ok g)
    (spreads : g.Spreads) (m : RecordModel) {c : RuleCache} (history : c.History g m.toObjectModel)
    {rule : RuleId} {h : Handle} (obtained : (c.get rule).1 = .ok h) {text : String}
    (short : text.utf8ByteSize < 2 ^ 63) (user : Value) (mode : MemoMode)
    {state state' : ParseState}
    (reached : Reached (c.get rule).2 (environmentOf (c.get rule).2 text user mode) state)
    {fuel : Nat} {v : Value}
    (found : matchRule (environmentOf (c.get rule).2 text user mode) fuel h state =
      some (.ok (some v), state')) :
    (g.outputOf rule).admits m.toObjectModel v = true := by
  have parse := parse_of_history built (history.get rule) short user mode
  obtain ⟨_, grammar, model⟩ := (history.get rule).sound
  have closed := typed_closed parse (grammar.symm ▸ spreads) model
  have ready := RuleCache.ready_of_get history.sound.1 obtained
  obtain ⟨p, ending, _, output, _, unique, concluded, _⟩ := match_comes parse closed
    (reached.rests parse closed) ready
  obtain ⟨outcome, after⟩ := ending
  obtain ⟨same, rfl⟩ := Prod.mk.inj (unique fuel _ found)
  rcases concluded.outcome with ⟨out, typed, realizes⟩ | ⟨_, name, pos, misplaced⟩
  · cases out with
    | matched value stop =>
      obtain ⟨product, rfl, denotes, _⟩ := realizes
      have typed : (((c.get rule).2.grammar.outputOf rule).admits _ (value.getD .null)) = true :=
        typed ⟨h, ready⟩
      rw [grammar, model] at typed
      have value : v = value.getD .null := by
        have same := Except.ok.inj same
        rw [matchValue, Option.map_some, output, denotes.toValue?_eq] at same
        exact Option.some.inj same
      rw [value]
      exact typed
    | failed =>
      dsimp only [Realizes] at realizes
      subst realizes
      cases same
    | faulted fault =>
      dsimp only [Realizes] at realizes
      subst realizes
      cases same
  · dsimp only at misplaced
    subst misplaced
    cases same

section

attribute [local instance] letterEngine

/-- A text between two letters a is one way to come by such a text, and both have the type `any`. -/
theorem nested_spreads : nestedGrammar.Spreads ∧
    nestedGrammar.get? ⟨1⟩ = some ⟨some "nested", .alternative none [⟨2⟩, ⟨0⟩, ⟨3⟩], false⟩ ∧
    nestedGrammar.outputOf ⟨2⟩ = .any := by
  refine ⟨(GrammarDraft.build_inferred nested_built).spreads_of_known fun id d found => ?_,
    rfl, rfl⟩
  have estimates : nestedGrammar.estimates =
      #[some .text, some .any, some .any, some .void] := by cbv
  have known : ∀ index < 4, nestedGrammar.estimates.of ⟨index⟩ ≠ none := by
    rw [estimates]
    decide
  exact known id.index (Array.getElem?_eq_some_iff.mp found).1

/-- Three letters a are matched with a value of the type of the rule that matches them. -/
theorem match_typed_nested : ∃ s,
    matchRule (environmentOf (nestedCache.get ⟨1⟩).2 "aaa" .null .off) 100 ⟨0⟩ (.initial false) =
      some (.ok (some (.str "a")), s) ∧
    (nestedGrammar.outputOf ⟨1⟩).admits RecordModel.empty.toObjectModel (.str "a") = true := by
  obtain ⟨s, found, _⟩ := nested_match
  exact ⟨s, found, match_typed nested_built nested_spreads.1 .empty .empty nested_get.1 (by decide)
    .null .off (.start false (Nat.zero_le _)) found⟩

end

end Machine

end Packrat
