import Packrat.Proofs.Machine.Alike
import Packrat.Proofs.Machine.Sparing
import Packrat.Proofs.Matching

/-!
# What a call depends on

When nothing is remembered, the end of a call depends on the rule, the place, and the rules that
are active at that very place. Rules that are active before it have no say, nor has how far the
text was examined, which the call raises to some place at least.

* `Agrees`: the same published rules are active at a place. `Covers`: the same of those that may be
  refused.
* `forgetful`: the environment in which nothing is remembered.
* `Lasting`: relations of parse states, without memory and with it, that the stages of calls keep.
* `SameReach`: parse states that were examined further by the same steps.

Main statements: `Issued.passes`, `Lasting.calls`, `Lasting.match` and `calls_alike`.
-/

namespace Packrat.Machine

open Text (Within)

/-! ## Active rules at a place -/

/-- The same published rules are active at a place. -/
def Agrees (c : RuleCache) (pos : Nat) (active active' : List (RuleId × Nat)) : Prop :=
  ∀ (rule : RuleId) (h : Handle), c.ready[rule]? = some h →
    ((rule, pos) ∈ active ↔ (rule, pos) ∈ active')

variable {c : RuleCache} {env : Environment} {refusable : RuleId → Prop}
  {active active' : List (RuleId × Nat)} {rule : RuleId} {pos : Nat}

/-- What is active at a place on the right is active on the left, and what is active on the left and
may be refused is active on the right. -/
def Covers (c : RuleCache) (refusable : RuleId → Prop) (pos : Nat)
    (active active' : List (RuleId × Nat)) : Prop :=
  ∀ (rule : RuleId) (h : Handle), c.ready[rule]? = some h →
    ((rule, pos) ∈ active' → (rule, pos) ∈ active) ∧
      (refusable rule → (rule, pos) ∈ active → (rule, pos) ∈ active')

/-- Lists with the same active rules cover each other. -/
theorem Agrees.covers (agrees : Agrees c pos active active') :
    Covers c refusable pos active active' :=
  fun rule h ready => ⟨(agrees rule h ready).mpr, fun _ => (agrees rule h ready).mp⟩

/-- Lists that cover each other for all rules have the same active rules. -/
theorem Covers.agrees (covers : Covers c (fun _ => True) pos active active') :
    Agrees c pos active active' :=
  fun rule h ready => ⟨(covers rule h ready).2 trivial, (covers rule h ready).1⟩

/-- A list covers itself. -/
theorem Covers.refl (c : RuleCache) (refusable : RuleId → Prop) (pos : Nat)
    (active : List (RuleId × Nat)) : Covers c refusable pos active active :=
  fun _ _ _ => ⟨id, fun _ => id⟩

/-- Entering a rule on both sides. -/
theorem Covers.entered (covers : Covers c refusable pos active active') (guards : Guards)
    (rule : RuleId) : Covers c refusable pos (entered guards rule pos active)
      (entered guards rule pos active') := by
  intro other h ready
  obtain ⟨left, right⟩ := covers other h ready
  unfold Machine.entered
  split
  · rw [List.mem_cons, List.mem_cons]
    exact ⟨Or.imp_right left, fun allowed => Or.imp_right (right allowed)⟩
  · exact ⟨left, right⟩

/-- No rules are active behind the place that a book is exact from. -/
theorem Tracks.not_mem {guards : Guards} {book : Book} (tracks : Tracks guards active pos book)
    {pos' : Nat} (less : pos < pos') : (rule, pos') ∉ active := by
  intro member
  have le := tracks.le _ member
  exact absurd less (Nat.not_lt_of_le le)

/-- At later places active rules are covered, if they are at the place that books are exact from. -/
theorem Covers.later {guards : Guards} {book book' : Book}
    (covers : Covers c refusable pos active active') (tracks : Tracks guards active pos book)
    (tracks' : Tracks guards active' pos book') {pos' : Nat} (le : pos ≤ pos') :
    Covers c refusable pos' active active' := by
  intro other h ready
  rcases Nat.lt_or_eq_of_le le with less | rfl
  · exact ⟨fun inside => absurd inside (tracks'.not_mem less),
      fun _ inside => absurd inside (tracks.not_mem less)⟩
  · exact covers other h ready

/-! ## Calls of published rules -/

/-- A published rule is called in a parse state that the guarded rules that are active agree
with. -/
structure Issued (c : RuleCache) (env : Environment) (active : List (RuleId × Nat)) (h : Handle)
    (s : ParseState) : Prop where
  ready : ∃ rule : RuleId, c.ready[rule]? = some h
  le : s.cursor.pos ≤ env.text.utf8ByteSize
  tracks : Tracks c.guards active s.cursor.pos s.book
  recalls : Recalls c env anything s.book.memo

/-- A published rule can be called where the parse rests. -/
theorem Rests.issued {h : Handle} {s : ParseState} (rests : Rests c env anything s)
    (ready : c.ready[rule]? = some h) : Issued c env [] h s :=
  ⟨⟨rule, ready⟩, rests.le, rests.tracks, rests.recalls⟩

/-- The guard of a published rule refuses it where it is active. -/
theorem reentry_iff [RegexEngine] {h : Handle} {d : RuleDef} {p : Program}
    (published : c.Published rule h d p) {s : ParseState}
    (tracks : Tracks c.guards active s.cursor.pos s.book) :
    isReentry p.recursion p.rule s.cursor.pos s.book = true ↔ (rule, s.cursor.pos) ∈ active := by
  have guarded : p.recursion = guardOf c.guards rule := published.recursion
  rw [guarded, published.compiled.rule]
  exact tracks.reentry rule s.cursor.pos (Nat.le_refl _)

/-- The guard of a published rule refuses it just as well where the same rules are active. -/
theorem reentry_eq [RegexEngine] {h : Handle} {d : RuleDef} {p : Program}
    (published : c.Published rule h d p) {active' : List (RuleId × Nat)} {s s' : ParseState}
    (tracks : Tracks c.guards active s.cursor.pos s.book)
    (tracks' : Tracks c.guards active' s'.cursor.pos s'.book)
    (same : (rule, s.cursor.pos) ∈ active ↔ (rule, s'.cursor.pos) ∈ active') :
    isReentry p.recursion p.rule s'.cursor.pos s'.book =
      isReentry p.recursion p.rule s.cursor.pos s.book := by
  rw [Bool.eq_iff_iff, reentry_iff published tracks, reentry_iff published tracks', same]

/-- The guard refuses a published rule on both sides or on neither, if active rules are covered and
the rule may be refused where it is. -/
theorem Covers.reentry_eq [RegexEngine] {h : Handle} {d : RuleDef} {p : Program} {s s' : ParseState}
    (covers : Covers c refusable s.cursor.pos active active') (ready : c.ready[rule]? = some h)
    (published : c.Published rule h d p) (tracks : Tracks c.guards active s.cursor.pos s.book)
    (tracks' : Tracks c.guards active' s'.cursor.pos s'.book)
    (here : s.cursor.pos = s'.cursor.pos)
    (allowed : isReentry p.recursion p.rule s.cursor.pos s.book = true → refusable p.rule) :
    isReentry p.recursion p.rule s'.cursor.pos s'.book =
      isReentry p.recursion p.rule s.cursor.pos s.book := by
  obtain ⟨left, right⟩ := covers rule h ready
  rw [published.compiled.rule] at allowed
  refine Machine.reentry_eq published tracks tracks' ?_
  rw [← here]
  refine ⟨fun inside => right (allowed ?_) inside, left⟩
  rw [← published.compiled.rule]
  exact (reentry_iff published tracks).mpr inside

/-- What is active while the program of a published rule runs. -/
theorem Issued.begun [RegexEngine] (parse : Parse c env) {h : Handle} {d : RuleDef} {p : Program}
    (published : c.Published rule h d p) {s : ParseState} (issued : Issued c env active h s)
    (name : Option String) : Tracks c.guards (entered c.guards rule s.cursor.pos active)
      s.cursor.pos (begun p name s).book := by
  have guarded : p.recursion = guardOf c.guards rule := published.recursion
  rw [← published.compiled.rule] at guarded ⊢
  exact issued.tracks.begun parse.cache.guards guarded name

/-- The run of a published rule comes to an end in one of the ways in which the rule may come out if
its children come out as their calls do. -/
theorem Issued.passes [RegexEngine] (parse : Parse c env) {h : Handle} {d : RuleDef} {p : Program}
    (published : c.Published rule h d p) {s : ParseState} (issued : Issued c env active h s)
    (name : Option String) (ways : RuleId → Nat → Passage Book Outcome)
    (passes : ∀ (child : RuleId) (h : Handle) (name : Option String) (s : ParseState)
      (ending : Ending) (out : Outcome), c.ready[child]? = some h → Calls env h name s ending →
      Realizes (c.grammar.outputOf child) out ending →
      Within env.text s.cursor.pos ending.2.cursor.pos →
      ways child s.cursor.pos s.book out ending.2.book) :
    ∃ ending, Runs env (CallsFrom c env anything s.cursor.pos (Machine.begun p name s).book) p
        (.at 0 (.fresh p) (Machine.begun p name s)) ending ∧
      Concluded env.text (c.grammar.outputOf rule)
        (Kept c env anything (Machine.begun p name s).book) s.cursor.pos
        (fun out => Meaning.rule ways env (contextOf c rule) s.cursor.pos d.rule
          (Machine.begun p name s).book out ending.2.book) ending := by
  have cursor : (Machine.begun p name s).cursor = s.cursor := begun_cursor
  have tracks := issued.begun parse published name
  have inside := issued.le
  rw [← cursor] at tracks inside
  have runs := run_passes parse published ways inside tracks
    (by rw [begun_memo]; exact issued.recalls)
    (fun child _ pos within => comes parse (anything_closed c env) _ child (within.le_size inside))
    fun child h name s ending out ready call realizes within _ =>
      passes child h name s ending out ready call realizes within
  rw [cursor] at runs
  exact runs

/-- The run of a published rule calls published rules at places further on. -/
theorem Issued.runs [RegexEngine] (parse : Parse c env) {h : Handle} {d : RuleDef} {p : Program}
    (published : c.Published rule h d p) {s : ParseState} (issued : Issued c env active h s)
    {calls : CallRelation} (known : ∀ h name s e, calls h name s e → Calls env h name s e)
    {name : Option String} {ending : Ending}
    (runs : Runs env calls p (.at 0 (.fresh p) (Machine.begun p name s)) ending) :
    Runs env (fun h name t e => calls h name t e ∧ s.cursor.pos ≤ t.cursor.pos ∧
        Issued c env (entered c.guards rule s.cursor.pos active) h t)
      p (.at 0 (.fresh p) (Machine.begun p name s)) ending := by
  obtain ⟨ending', runs', _⟩ := issued.passes parse published name (fun _ _ _ _ _ => True)
    fun _ _ _ _ _ _ _ _ _ _ => trivial
  have tracks := issued.begun parse published name
  have both := (runs.meet runs' fun h name t e e' call call' =>
    (known h name t e call).deterministic call'.1).2
  refine both.mono fun h name t e call => ?_
  obtain ⟨call, _, within, kept, ready⟩ := call
  have later := (tracks.later within.le).of_eq kept.guard kept.walk
  exact ⟨call, within.le, ready, within.le_size issued.le, later, kept.recalls⟩

/-! ## The end of a call -/

/-- The place where a call ends whose run has come to an end. -/
def stopOf (start : Nat) : Ending → Nat
  | (.ok none, _) => start
  | (_, state) => state.cursor.pos

/-- Closing a run leaves its outcome as it is. -/
theorem closed_fst (e : Entry) (ending : Ending) : (closed e ending).1 = ending.1 := by
  obtain ⟨_ | _, _⟩ := ending <;> rfl

/-- Where a call is once its run is closed. -/
theorem closed_cursor (e : Entry) (ending : Ending) :
    (closed e ending).2.cursor = ⟨stopOf e.start ending, ending.2.cursor.furthest⟩ := by
  obtain ⟨fault | outcome, state⟩ := ending
  · exact abandon_cursor
  · refine leaveRule_cursor.trans ?_
    cases outcome <;> rfl

/-- Where a call stops is decided by the outcome and the place of its run. -/
theorem stopOf_congr (start : Nat) {ending ending' : Ending} (same : ending.1 = ending'.1)
    (place : ending.2.cursor.pos = ending'.2.cursor.pos) :
    stopOf start ending = stopOf start ending' := by
  obtain ⟨outcome, state⟩ := ending
  obtain ⟨outcome', state'⟩ := ending'
  obtain rfl : outcome = outcome' := same
  obtain fault | outcome := outcome
  · exact place
  · cases outcome with
    | none => rfl
    | some product => exact place

/-- The same runs from the same place end calls with the same outcome at the same place. -/
theorem closed_alike (e e' : Entry) {ending ending' : Ending} (start : e.start = e'.start)
    (outcome : ending.1 = ending'.1) (cursor : ending.2.cursor = ending'.2.cursor) :
    (closed e ending).1 = (closed e' ending').1 ∧
      (closed e ending).2.cursor = (closed e' ending').2.cursor := by
  constructor
  · rw [closed_fst, closed_fst, outcome]
  · rw [closed_cursor, closed_cursor, ← start,
      stopOf_congr e.start outcome (congrArg Cursor.pos cursor), cursor]

/-! ## Calls side by side -/

/-- The environment in which nothing is remembered. -/
def forgetful (env : Environment) : Environment := { env with memoMode := .off }

/-- Where nothing is remembered anyway, forgetting changes nothing. -/
theorem forgetful_off (off : env.memoMode = .off) : forgetful env = env := by
  rw [forgetful, ← off]

/-- A parse stays one if nothing is remembered in it. -/
theorem parse_forgetful [RegexEngine] (parse : Parse c env) : Parse c (forgetful env) where
  cache := parse.cache
  inferred := parse.inferred
  record := parse.record
  model := parse.model
  arena := parse.arena
  short := parse.short

/-- Where nothing is remembered, no outcome is found. -/
theorem remembered_off (off : env.memoMode = .off) (p : Program) (pos : Nat) (guard : Guard)
    (memo : MemoTable) : remembered (memoKey env.memoMode p pos guard) memo = none := by
  rw [off]
  unfold memoKey
  split <;> rfl

/-- A published rule is called when nothing is remembered, and calls are refused for some rules
only. -/
structure SparingCall (c : RuleCache) (env : Environment) (refusable : RuleId → Prop)
    (active : List (RuleId × Nat)) (rule : RuleId) (h : Handle) (s : ParseState) (e : Ending) :
    Prop where
  ready : c.ready[rule]? = some h
  issued : Issued c (forgetful env) active h s
  sparing : ∃ name, Sparing (forgetful env) refusable h name s e

/-- Beside such a call on the left, the rule is called on the right, where outcomes may be
remembered. -/
structure SideBySide (c : RuleCache) (env : Environment) (refusable : RuleId → Prop)
    (K : ParseState → ParseState → Prop) (active active' : List (RuleId × Nat)) (rule : RuleId)
    (h : Handle) (s s' : ParseState) (e : Ending) : Prop where
  call : SparingCall c env refusable active rule h s e
  issued : Issued c env active' h s'
  covers : Covers c refusable s.cursor.pos active active'
  related : K s s'

/-- A relation of parse states, without memory on the left and with it on the right, that
instructions and the stages of calls keep, as long as calls are refused for some rules only and have
slots that match. -/
structure Lasting (c : RuleCache) (env : Environment) (refusable : RuleId → Prop)
    (slots : Option String → Option String → Prop) (K : ParseState → ParseState → Prop) :
    Prop where
  steady : Steady K
  same : ∀ name, slots name name
  begun : ∀ {p : Program} {name name' : Option String} {s s' : ParseState}, slots name name' →
    K s s' → K (begun p name s) (begun p name' s')
  cut : ∀ {rule : RuleId} {s s' : ParseState}, refusable rule → K s s' →
    K (countCut (countCall s)) (countCut (countCall s'))
  replayed : ∀ {active active' : List (RuleId × Nat)} {rule : RuleId} {h : Handle} {p : Program}
    {s s' : ParseState} {e : Ending} {entry : MemoEntry},
      SideBySide c env refusable K active active' rule h s s' e → p.rule = rule →
        remembered (memoKey env.memoMode p s'.cursor.pos s'.book.guard) s'.book.memo =
            some entry → EndAlike K e (replayed entry s')
  closed : ∀ {active active' : List (RuleId × Nat)} {rule : RuleId} {h : Handle} {p : Program}
    {s s' : ParseState} {inner inner' : Ending},
      SideBySide c env refusable K active active' rule h s s'
          (closed (entryOf (forgetful env) p s) inner) → p.rule = rule →
        EndAlike K inner inner' →
          EndAlike K (closed (entryOf (forgetful env) p s) inner) (closed (entryOf env p s') inner')

/-- Calls side by side keep the relations that the stages of calls keep. If calls on the left are
refused for some rules only, so are those on the right. -/
theorem Lasting.calls [RegexEngine] (parse : Parse c env)
    {slots : Option String → Option String → Prop} {K : ParseState → ParseState → Prop}
    (lasting : Lasting c env refusable slots K) {depth : Nat}
    {h : Handle} {name name' : Option String} {s s' : ParseState} {e e' : Ending}
    (issued : Issued c (forgetful env) active h s) (issued' : Issued c env active' h s')
    (covers : Covers c refusable s.cursor.pos active active') (related : K s s')
    (slot : slots name name') (call : SparingWithin (forgetful env) refusable depth h name s e)
    (call' : Calls env h name' s' e') :
    EndAlike K e e' ∧ Sparing env refusable h name' s' e' := by
  induction depth generalizing active active' h name name' s s' e e' with
  | zero => exact call.elim
  | succ depth ih =>
    obtain ⟨rule, ready⟩ := issued.ready
    obtain ⟨d, p, published⟩ := parse.cache.entries rule h ready
    have program := programOf_of_published (parse_forgetful parse) published
    have program' := programOf_of_published parse published
    have named := published.compiled.rule
    have here := lasting.steady.pos _ _ related
    have sides : SideBySide c env refusable K active active' rule h s s' e :=
      ⟨⟨ready, issued, ⟨name, depth + 1, call⟩⟩, issued', covers, related⟩
    -- Both calls are refused, or none is.
    have guards := covers.reentry_eq ready published issued.tracks issued'.tracks here
      (call.2 p program)
    have allowed : ∀ q, programOf env h = .ok q →
        isReentry q.recursion q.rule s'.cursor.pos s'.book = true → refusable q.rule := by
      intro q program₀ refused
      cases program'.symm.trans program₀
      exact call.2 p program (guards.symm.trans refused)
    have course := Answers.course program call.1
    cases Answers.course program' (calls_iff.mp call') with
    | cut refused =>
      obtain rfl := course.of_cut (guards.symm.trans refused)
      exact ⟨⟨rfl, lasting.cut (allowed p program' refused) related⟩,
        sparing_iff.mpr ⟨.answered program' (enterRule_cut refused), allowed⟩⟩
    | hit free found =>
      exact ⟨lasting.replayed sides named found,
        sparing_iff.mpr ⟨.of_hit program' free found, allowed⟩⟩
    | @ran inner' free unknown runs' =>
      obtain ⟨inner, runs, rfl⟩ := course.of_run (guards.symm.trans free) (remembered_off rfl ..)
      have calls := issued.runs (parse_forgetful parse) published
        (fun _ _ _ _ call => ⟨depth, call.calls⟩) runs
      have calls' := issued'.runs parse published (fun _ _ _ _ call => call) runs'
      rw [← here] at calls'
      have tracks := issued.begun (parse_forgetful parse) published name
      have tracks' := issued'.begun parse published name'
      rw [← here] at tracks'
      -- Both runs go side by side. A call below is made from a place no further back, so the active
      -- rules on the left still cover those on the right.
      have both := Runs.twins (Sparing env refusable) lasting.steady
        (.refl fun i => (execute_memoMode env .off p i).symm)
        (fun h h' name t t' e e' handles related call call' => ?_) calls calls'
        (.at (lasting.begun slot related))
      · exact ⟨lasting.closed sides named both.1,
          sparing_iff.mpr ⟨.ran program' (enterRule_run free unknown) both.2, allowed⟩⟩
      · subst handles
        obtain ⟨call, ge, issued⟩ := call
        obtain ⟨call', _, issued'⟩ := call'
        have covers' := (covers.entered c.guards rule).later tracks tracks' ge
        exact ih issued issued' covers' related (lasting.same name) call call'

/-- Matches side by side end alike and keep the relations that the stages of calls keep. -/
theorem Lasting.match [RegexEngine] (parse : Parse c env)
    {slots : Option String → Option String → Prop} {K : ParseState → ParseState → Prop}
    (lasting : Lasting c env (fun _ => True) slots K)
    {s s' : ParseState} (rests : Rests c (forgetful env) anything s)
    (rests' : Rests c env anything s') (related : K s s') {h : Handle}
    (ready : c.ready[rule]? = some h) :
    ∃ enough outcome t t', (∀ fuel, enough ≤ fuel →
        matchRule (forgetful env) fuel h s = some (outcome, t) ∧
          matchRule env fuel h s' = some (outcome, t')) ∧ K t t' := by
  obtain ⟨p, ending, ⟨depth, call⟩, output, ⟨fuel, found⟩, _⟩ :=
    match_comes (parse_forgetful parse) (anything_closed c (forgetful env)) rests ready
  obtain ⟨p', ending', call', output', ⟨fuel', found'⟩, _⟩ :=
    match_comes parse (anything_closed c env) rests' ready
  obtain ⟨⟨same, after⟩, _⟩ := lasting.calls parse (rests.issued ready) (rests'.issued ready)
    (.refl c _ _ []) related (lasting.same none) call.sparing call'
  have values : matchValue p = matchValue p' := by
    funext outcome
    rw [matchValue, matchValue, output, output']
  refine ⟨max fuel fuel', ending.1.map (matchValue p), ending.2, ending'.2, fun more le => ?_,
    after⟩
  constructor
  · exact matchRule_mono (Nat.le_trans (Nat.le_max_left _ _) le) found
  · rw [same, values]
    exact matchRule_mono (Nat.le_trans (Nat.le_max_right _ _) le) found'

/-! ## Calls when nothing is remembered -/

/-- Parse states at the same place, where the text was examined up to some place, or further if it
was before. -/
def SameReach (furthest furthest' : Nat) (s s' : ParseState) : Prop :=
  s.cursor.pos = s'.cursor.pos ∧ ∃ reach, s.cursor.furthest = max furthest reach ∧
    s'.cursor.furthest = max furthest' reach

/-- Parse states at one place reach alike from there on. -/
theorem SameReach.of_eq {s s' : ParseState} (pos : s.cursor.pos = s'.cursor.pos) :
    SameReach s.cursor.furthest s'.cursor.furthest s s' :=
  ⟨pos, 0, (Nat.max_zero _).symm, (Nat.max_zero _).symm⟩

/-- What reaches alike in two stretches does so in both together. -/
theorem SameReach.trans {furthest furthest' : Nat} {s s' t t' : ParseState}
    (first : SameReach furthest furthest' s s')
    (second : SameReach s.cursor.furthest s'.cursor.furthest t t') :
    SameReach furthest furthest' t t' := by
  obtain ⟨_, reach, here, here'⟩ := first
  obtain ⟨pos, reach', there, there'⟩ := second
  refine ⟨pos, max reach reach', ?_, ?_⟩
  · rw [there, here, Nat.max_assoc]
  · rw [there', here', Nat.max_assoc]

/-- Reaching alike is kept by every move that both parse states make. -/
theorem sameReach_steady (furthest furthest' : Nat) : Steady (SameReach furthest furthest') where
  pos _ _ same := same.1
  moved cursor cursor' book book' pos reach same := by
    refine same.trans ⟨rfl, reach, rfl, rfl⟩

/-- When nothing is remembered, the stages of calls keep how much further the text was examined. -/
theorem lasting_sameReach (c : RuleCache) (off : env.memoMode = .off)
    (refusable : RuleId → Prop) (furthest furthest' : Nat) :
    Lasting c env refusable (fun _ _ => True) (SameReach furthest furthest') where
  steady := sameReach_steady furthest furthest'
  same _ := trivial
  begun _ same := by
    rw [SameReach, begun_cursor, begun_cursor]
    exact same
  cut _ same := same
  replayed _ _ found := by
    rw [remembered_off off] at found
    cases found
  closed sides _ alike := by
    obtain ⟨outcome, place, reach⟩ := alike
    refine ⟨by rw [closed_fst, closed_fst, outcome], ?_⟩
    rw [SameReach, closed_cursor, closed_cursor, entryOf, entryOf, ← sides.related.1]
    exact ⟨stopOf_congr _ outcome place, reach⟩

/-- When nothing is remembered, calls of a rule at a place end alike if the same rules are active
there. -/
theorem calls_alike [RegexEngine] (parse : Parse c env) (off : env.memoMode = .off) {depth : Nat}
    {h : Handle} {name name' : Option String} {s s' : ParseState} {e e' : Ending}
    (issued : Issued c env active h s) (issued' : Issued c env active' h s')
    (same : s.cursor.pos = s'.cursor.pos) (agrees : Agrees c s.cursor.pos active active')
    (call : CallsWithin env depth h name s e) (call' : Calls env h name' s' e') :
    EndAlike (SameReach s.cursor.furthest s'.cursor.furthest) e e' := by
  have lasting := lasting_sameReach c off (fun _ => True) s.cursor.furthest s'.cursor.furthest
  rw [← forgetful_off off] at issued call
  exact (lasting.calls parse issued issued' agrees.covers (.of_eq same) trivial call.sparing
    call').1

end Packrat.Machine
