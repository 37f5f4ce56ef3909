import Packrat.Proofs.Machine.Examined
import Packrat.Proofs.Machine.Twins
import Packrat.Proofs.Matching
import Packrat.Proofs.Restoration

/-!
# What a match looked at

A match of a grammar without regular expressions, numbers and literals in any case looks at the
text up to the furthest place it reports, and at nothing behind the character there. On any other
text that begins in the same way it ends in the same way, with the same parse state.

* `Grammar.Scanless`: no rule reads the text with more than single characters.
* `ParseState.Examined`: the position and what is remembered are not beyond the furthest place.
* `Turn.Examined`: neither are the positions that a run keeps.
* `Followed`: an end of a call that calls on the other text come to as well.

Main statements: `CallsWithin.followed` and `match_examined`.
-/

namespace Packrat

/-- No rule reads the text with more than single characters. -/
def Grammar.Scanless (g : Grammar) : Prop :=
  ∀ (id : RuleId) (d : RuleDef), g.get? id = some d → d.rule.scans = false

namespace Machine

variable {env : Environment} {p : Program} {text text' : String} {kept : List IntSlot}
  {reach : Nat} {c : RuleCache} {s : ParseState} {h : Handle} {name : Option String}
  {ending : Ending}

/-! ## Parse states -/

/-- Position and remembered stops are boundaries up to which the text was examined. -/
structure ParseState.Examined (text : String) (s : ParseState) : Prop where
  cursor : Cursor.Examined text s.cursor
  stops : ∀ (key : MemoKey) (stop : Nat) (product : Product),
    s.book.memo[key]? = some (.success stop product) →
      Text.isBoundary text stop = true ∧ stop ≤ s.cursor.furthest

/-- Once the text is examined further, what is remembered is not beyond it. -/
theorem ParseState.Examined.of_book {s' : ParseState} (examined : ParseState.Examined text s)
    (cursor : Cursor.Examined text s'.cursor) (le : s.cursor.furthest ≤ s'.cursor.furthest)
    (book : s'.book = s.book) : ParseState.Examined text s' where
  cursor := cursor
  stops key stop product there := by
    obtain ⟨boundary, near⟩ := examined.stops key stop product (book ▸ there)
    exact ⟨boundary, Nat.le_trans near le⟩

/-- At a turn of a run, position, remembered stops and kept positions are places up to which the
text was examined. A call leaves the kept positions alone. -/
inductive Turn.Examined (text : String) (p : Program) (kept : List IntSlot) : Turn → Prop where
  /-- At an instruction. -/
  | at {pc : Nat} {regs : Registers} {s : ParseState} (state : ParseState.Examined text s)
      (places : regs.Examined kept s.cursor.furthest) : Examined text p kept (.at pc regs s)
  /-- At a call. -/
  | calling {callee : Handle} {name : Option String} {dst : Option Slot} {onFail : Label}
      {pc : Nat} {regs : Registers} {s : ParseState} (state : ParseState.Examined text s)
      (places : regs.Examined kept s.cursor.furthest) (free : ∀ r ∈ Slot.scalars dst, r ∉ kept)
      (known : ∃ index, p.callee index = .ok callee) :
      Examined text p kept (.calling callee name dst onFail pc regs s)
  /-- At the end. -/
  | ended {ending : Ending} (state : ParseState.Examined text ending.2) :
      Examined text p kept (.ended ending)

/-- A call or a run that ends examines the text further, if at all, and the same happens elsewhere
unless it examines the text beyond `reach`. -/
structure Followed (text : String) (reach : Nat) (s : ParseState) (ending : Ending)
    (elsewhere : Prop) : Prop where
  further : s.cursor.furthest ≤ ending.2.cursor.furthest
  examined : ParseState.Examined text ending.2
  follows : ending.2.cursor.furthest ≤ reach → elsewhere

/-! ## Runs -/

section

variable (alike : Text.Alike env.text text' reach)
  (orderly : ∀ i ∈ p.code, i.Orderly false kept fun r => r ∉ kept)

include alike orderly

/-- An instruction leads a run to the same turn on the other text. -/
theorem performed_examined (pc : Nat) {regs : Registers} (state : ParseState.Examined env.text s)
    (places : regs.Examined kept s.cursor.furthest) :
    (performed env p pc regs s).Examined env.text p kept ∧
      ((performed env p pc regs s).state.cursor.furthest ≤ reach →
        performed { env with text := text' } p pc regs s = performed env p pc regs s) := by
  obtain ⟨cursor, book⟩ := s
  unfold performed
  dsimp only
  cases found : p.instruction pc with
  | error fault => exact ⟨.ended state, fun _ => rfl⟩
  | ok i =>
    have member : i ∈ p.code := by
      unfold Program.instruction at found
      split at found
      · cases found
        exact Array.mem_of_getElem? ‹_›
      · cases found
    obtain ⟨further, examined, same⟩ :=
      @execute_confined env p kept reach text' alike i (orderly i member) ⟨regs, cursor⟩
        ⟨state.cursor, places⟩
    dsimp only
    cases ran : execute env p i ⟨regs, cursor⟩ with
    | error fault after =>
      rw [ran] at further examined same
      refine ⟨.ended (state.of_book examined.cursor further rfl), fun near => ?_⟩
      rw [same near]
    | ok control after =>
      rw [ran] at further examined same
      have stays : ParseState.Examined env.text ⟨after.cursor, book⟩ :=
        state.of_book examined.cursor further rfl
      cases control with
      | next => exact ⟨.at stays examined.regs, fun near => by rw [same near]⟩
      | goto pc => exact ⟨.at stays examined.regs, fun near => by rw [same near]⟩
      | ret outcome => exact ⟨.ended stays, fun near => by rw [same near]⟩
      | call callee name dst onFail =>
        obtain ⟨index, rfl, known⟩ := call_of_execute ran
        exact ⟨.calling stays examined.regs (orderly _ member) ⟨index, known⟩,
          fun near => by rw [same near]⟩

omit alike orderly in
/-- Storing the product of a call has nothing to do with the text. -/
theorem resumed_examined {pc : Nat} {regs : Registers} {dst : Option Slot}
    (state : ParseState.Examined text s) (places : regs.Examined kept s.cursor.furthest)
    (free : ∀ r ∈ Slot.scalars dst, r ∉ kept) (onFail : Label) (outcome : Option Product) :
    (resumed p pc regs dst onFail outcome s).Examined text p kept := by
  obtain ⟨cursor, book⟩ := s
  unfold resumed
  cases outcome with
  | none =>
    dsimp only
    cases p.target onFail with
    | error fault => exact .ended state
    | ok pc => exact .at state places
  | some product =>
    dsimp only
    have confined : Confined text kept 0 (storeProduct p dst product) _ :=
      (storeProduct_apart free product).confined
    obtain ⟨further, examined, _⟩ := confined ⟨regs, cursor⟩ ⟨state.cursor, places⟩
    cases stored : storeProduct p dst product ⟨regs, cursor⟩ with
    | error fault after =>
      rw [stored] at further examined
      exact .ended (state.of_book examined.cursor further rfl)
    | ok _ after =>
      rw [stored] at further examined
      have stays : ParseState.Examined text ⟨after.cursor, book⟩ :=
        state.of_book examined.cursor further rfl
      exact .at stays examined.regs

/-- A run comes to the same end on the other text, if its calls do. -/
theorem Runs.followed {calls calls' : CallRelation} {turn : Turn}
    (below : ∀ callee, (∃ index, p.callee index = .ok callee) → ∀ name s e,
      ParseState.Examined env.text s → calls callee name s e →
        Followed env.text reach s e (calls' callee name s e))
    (examined : turn.Examined env.text p kept) (runs : Runs env calls p turn ending) :
    Followed env.text reach turn.state ending
      (Runs { env with text := text' } calls' p turn ending) := by
  induction runs with
  | @step pc regs s ending rest ih =>
    cases examined with
    | «at» state places =>
      obtain ⟨examined', same⟩ := performed_examined alike orderly pc state places
      obtain ⟨further, last, follows⟩ := ih examined'
      have first := (balanced_performed env p pc regs s).furthest
      refine ⟨Nat.le_trans first further, last, fun near => .step ?_⟩
      rw [same (Nat.le_trans further near)]
      exact follows near
  | faulted call =>
    cases examined with
    | calling state places free known =>
      obtain ⟨further, last, follows⟩ := below _ known _ _ _ state call
      exact ⟨further, last, fun near => .faulted (follows near)⟩
  | @called _ _ dst onFail pc regs _ s' outcome _ call _ ih =>
    cases examined with
    | calling state places free known =>
      obtain ⟨further, last, follows⟩ := below _ known _ _ _ state call
      have resumes := (balanced_resumed p pc regs dst onFail outcome s').furthest
      obtain ⟨further', last', follows'⟩ :=
        ih (resumed_examined last (places.mono further) free onFail outcome)
      refine ⟨Nat.le_trans further (Nat.le_trans resumes further'), last', fun near => ?_⟩
      exact .called (follows (Nat.le_trans resumes (Nat.le_trans further' near))) (follows' near)
  | done =>
    cases examined with
    | ended state => exact ⟨Nat.le_refl _, state, fun _ => .done⟩

end

/-! ## Calls -/

/-- At first, everything before the furthest place was examined. -/
theorem ParseState.Examined.initial (text : String) (traced : Bool) :
    ParseState.Examined text (.initial traced) where
  cursor := by
    have boundary : Text.isBoundary text 0 = true :=
      Text.isBoundary_iff.mpr ⟨[], text.toList, rfl, rfl⟩
    exact ⟨boundary, Nat.le_refl _, boundary⟩
  stops := by simp [ParseState.initial]

/-- So it is where a run begins. -/
theorem ParseState.Examined.begun (examined : ParseState.Examined text s) :
    ParseState.Examined text (begun p name s) := by
  constructor
  · rw [begun_cursor]
    exact examined.cursor
  · rw [begun_memo, begun_cursor]
    exact examined.stops

/-- The stop of a call is remembered, and the text was examined up to there. -/
theorem ParseState.Examined.closed (examined : ParseState.Examined text s)
    (inner : ParseState.Examined text ending.2)
    (further : s.cursor.furthest ≤ ending.2.cursor.furthest) :
    ParseState.Examined text (closed (entryOf env p s) ending).2 := by
  have cursor : Cursor.Examined text (Machine.closed (entryOf env p s) ending).2.cursor := by
    rw [closed_cursor]
    obtain ⟨fault | outcome, after⟩ := ending
    · exact inner.cursor
    · cases outcome with
      | none =>
        exact ⟨examined.cursor.pos, Nat.le_trans examined.cursor.le further, inner.cursor.furthest⟩
      | some product => exact inner.cursor
  refine ⟨cursor, fun key stop product there => ?_⟩
  rcases remembered_closed there with there | ⟨_, _, here⟩
  · rw [closed_cursor]
    exact inner.stops key stop product there
  · have here : (Machine.closed (entryOf env p s) ending).2.cursor.pos = stop := here
    rw [← here]
    exact ⟨cursor.pos, cursor.le⟩

/-- The registers of a program keep the beginning of the text at first. -/
theorem Registers.Examined.fresh (p : Program) (kept : List IntSlot) (furthest : Nat) :
    (Registers.fresh p).Examined kept furthest := by
  intro r _ n there
  have zero : n ∈ Array.replicate p.intSlots 0 := Array.mem_of_getElem? there
  rw [(Array.mem_replicate.mp zero).2]
  exact Int.natCast_nonneg furthest

/-- However a call of an orderly program goes, it goes so on the other text. -/
theorem Course.followed [RegexEngine] {calls calls' : CallRelation}
    (alike : Text.Alike env.text text' reach)
    (orderly : ∀ i ∈ p.code, i.Orderly false kept fun r => r ∉ kept)
    (below : ∀ callee, (∃ index, p.callee index = .ok callee) → ∀ name s e,
      ParseState.Examined env.text s → calls callee name s e →
        Followed env.text reach s e (calls' callee name s e))
    (examined : ParseState.Examined env.text s) (course : Course env calls p name s ending) :
    Followed env.text reach s ending
      (Course { env with text := text' } calls' p name s ending) := by
  cases course with
  | cut active =>
    exact ⟨Nat.le_refl _, ⟨examined.cursor, examined.stops⟩, fun _ => .cut active⟩
  | @hit entry free found =>
    refine ⟨?_, ?_, fun _ => .hit free found⟩
    · cases entry <;> exact Nat.le_refl _
    · cases entry with
      | success stop product =>
        obtain ⟨key, _, there⟩ := Option.bind_eq_some_iff.mp found
        obtain ⟨boundary, near⟩ := examined.stops key stop product there
        exact ⟨⟨boundary, near, examined.cursor.furthest⟩, examined.stops⟩
      | failure => exact ⟨examined.cursor, examined.stops⟩
  | @ran ending free unknown runs =>
    have start : Turn.Examined env.text p kept (.at 0 (.fresh p) (Machine.begun p name s)) :=
      .at examined.begun (.fresh p kept _)
    obtain ⟨further, last, follows⟩ := runs.followed alike orderly below start
    have further : s.cursor.furthest ≤ ending.2.cursor.furthest := by
      rw [← @begun_cursor p name s]
      exact further
    have reached : (Machine.closed (entryOf env p s) ending).2.cursor.furthest =
        ending.2.cursor.furthest := by rw [closed_cursor]
    refine ⟨?_, examined.closed last further, fun near => .ran free unknown (follows ?_)⟩
    · rw [reached]
      exact further
    · rw [← reached]
      exact near

section

variable [RegexEngine] (sound : c.Sound) (inferred : c.grammar.Inferred)
  (scanless : c.grammar.Scanless) {rule : RuleId}

include inferred scanless in
/-- Published programs of a grammar without such rules keep to what they examined. -/
theorem orderly_of_published {d : RuleDef} (published : c.Published rule h d p) :
    p.Orderly false := by
  obtain ⟨raw, lowered, same, _⟩ := published.linked
  have orderly := Lowering.lowerRule_orderly inferred published.compiled.found lowered
  rw [scanless rule d published.compiled.found] at orderly
  rw [same]
  exact orderly

include sound inferred scanless in
/-- Every call of a published rule ends on the other text as it does on the first, if it does not
examine that beyond the common part. -/
theorem CallsWithin.followed (arena : env.arena = c.arena)
    (alike : Text.Alike env.text text' reach) {depth : Nat} (ready : c.ready[rule]? = some h)
    (examined : ParseState.Examined env.text s) (call : CallsWithin env depth h name s ending) :
    Followed env.text reach s ending
      (CallsWithin { env with text := text' } depth h name s ending) := by
  induction depth generalizing rule h name s ending with
  | zero => exact call.elim
  | succ depth ih =>
    obtain ⟨d, p, published⟩ := sound.entries rule h ready
    have program : programOf env h = .ok p := programOf_of_arena arena published
    obtain ⟨kept, orderly⟩ := orderly_of_published inferred scanless published
    have below (callee : Handle) (known : ∃ index, p.callee index = .ok callee)
        (name : Option String) (s : ParseState) (e : Ending)
        (examined : ParseState.Examined env.text s)
        (inner : CallsWithin env depth callee name s e) :
        Followed env.text reach s e
          (CallsWithin { env with text := text' } depth callee name s e) := by
      obtain ⟨index, known⟩ := known
      obtain ⟨child, entry⟩ := entry_of_callee known
      exact ih (published.callees _ _ _ entry).2 examined inner
    have course := Answers.course program call
    obtain ⟨further, last, follows⟩ := course.followed alike orderly below examined
    exact ⟨further, last, fun near => Answers.of_course program (follows near)⟩

end

/-! ## Matches -/

/-- The furthest offset bounds what a match looked at: if a match from the beginning of a text ends
with the furthest place before the end of the text, then a character starts there, and on every text
that agrees with it up to and including that character the match comes to the same outcome and
the same parse state; for every grammar that can be built without regular expressions, numbers and
literals in any case, whatever was asked for before, and however outcomes are remembered. -/
theorem match_examined [RegexEngine] {d : GrammarDraft} {g : Grammar} (built : d.build = .ok g)
    (scanless : g.Scanless) (m : RecordModel) {c : RuleCache}
    (history : c.History g m.toObjectModel)
    {rule : RuleId} {h : Handle} (obtained : (c.get rule).1 = .ok h) {text : String} (user : Value)
    (mode : MemoMode) (traced : Bool) {fuel : Nat} {outcome : Except EngineFault (Option Value)}
    {state : ParseState}
    (found : matchRule (environmentOf (c.get rule).2 text user mode) fuel h (.initial traced) =
      some (outcome, state))
    (inside : state.cursor.furthest < text.utf8ByteSize) :
    ∃ char, Text.charAt? text state.cursor.furthest = some char ∧
      ∀ text' : String, Text.slice? text' 0 (state.cursor.furthest + char.utf8Size) =
          Text.slice? text 0 (state.cursor.furthest + char.utf8Size) →
        ∃ enough, ∀ fuel', enough ≤ fuel' →
          matchRule (environmentOf (c.get rule).2 text' user mode) fuel' h (.initial traced) =
            some (outcome, state) := by
  obtain ⟨sound, grammar, model⟩ := (history.get rule).sound
  have ready := RuleCache.ready_of_get history.sound.1 obtained
  subst grammar
  have inferred := GrammarDraft.build_inferred built
  obtain ⟨d, p, published⟩ := sound.entries rule h ready
  have program (text : String) :
      programOf (environmentOf (c.get rule).2 text user mode) h = .ok p :=
    programOf_of_arena rfl published
  obtain ⟨_, ending, ⟨depth, call⟩, _⟩ := calls_of_matchRule found
  obtain ⟨fuel₁, found₁⟩ := matchRule_of_calls (program text) ⟨depth, call⟩
  cases matchRule_unique found found₁
  have examined := ParseState.Examined.initial text traced
  -- The end is known from the match on the text itself, before another text comes in.
  have last := (call.followed sound inferred scanless rfl (.refl text ending.2.cursor.furthest)
    ready examined).examined
  obtain ⟨char, here⟩ := Text.exists_charAt? last.cursor.furthest inside
  refine ⟨char, here, fun text' same => ?_⟩
  have follows := (call.followed sound inferred scanless rfl (.of_slice here same) ready
    examined).follows (Nat.le_refl _)
  obtain ⟨enough, found'⟩ := matchRule_of_calls (program text') ⟨depth, follows⟩
  exact ⟨enough, fun fuel' more => matchRule_mono more found'⟩

section

attribute [local instance] letterEngine

/-- The match of the letter a in front of a b looks at nothing behind the b. -/
theorem match_examined_letter : letterGrammar.Scanless ∧
    matchRule (environmentOf (letterCache.get ⟨0⟩).2 "ab" .null .off) 7 ⟨0⟩ (.initial false) =
      some (.ok (some (.char 'a')), ⟨⟨1, 1⟩, ⟨⟨0, 0⟩, [], ∅, ⟨1, 0, 0⟩, none⟩⟩) ∧
    ∃ enough, ∀ fuel, enough ≤ fuel →
      matchRule (environmentOf (letterCache.get ⟨0⟩).2 "abc" .null .off) fuel ⟨0⟩
        (.initial false) =
          some (.ok (some (.char 'a')), ⟨⟨1, 1⟩, ⟨⟨0, 0⟩, [], ∅, ⟨1, 0, 0⟩, none⟩⟩) := by
  have scanless : letterGrammar.Scanless := by
    rintro ⟨_ | index⟩ d found
    · cases found
      rfl
    · cases found
  have found : matchRule (environmentOf (letterCache.get ⟨0⟩).2 "ab" .null .off) 7 ⟨0⟩
      (.initial false) =
        some (.ok (some (.char 'a')), ⟨⟨1, 1⟩, ⟨⟨0, 0⟩, [], ∅, ⟨1, 0, 0⟩, none⟩⟩) := by
    rw [letter_environment]
    rfl
  refine ⟨scanless, found, ?_⟩
  obtain ⟨char, here, agree⟩ := match_examined letter_built scanless .empty .empty letter_get.1
    .null .off false found (by decide)
  cases here
  exact agree "abc" (by decide)

end

end Machine

end Packrat
