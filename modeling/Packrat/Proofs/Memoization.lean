import Packrat.Proofs.Context

/-!
# Memoization is transparent

Matches that remember outcomes by rule, place and active rules come out as matches that remember
nothing do, and leave the parse at the same place, examined equally far. Masks of active rules tell
contexts of calls apart as long as no rule is guarded by a walk.

* `RuleCache.Walkless`: no program is guarded by a walk.
* `Marks`: a mask says which rules are active at a place.
* `Faithful`: a remembered outcome is that of every call with its mask.
* `matchAll`: matches one after another on one parse state.

Main statements: `calls_mirror` and `matchAll_transparent`.
-/

namespace Packrat

/-- No program is guarded by a walk. -/
def RuleCache.Walkless (c : RuleCache) : Prop :=
  ∀ (h : Handle) (p : Program), (c.arena.get? h).bind Matcher.program? = some p →
    p.recursion ≠ .walk

/-- No program is guarded by a walk if none in the arena is. -/
theorem RuleCache.walkless_of_arena {c : RuleCache}
    (free : ∀ m ∈ c.arena, ∀ p ∈ m.program?, p.recursion ≠ .walk) : c.Walkless := by
  intro h p found
  obtain ⟨m, there, program⟩ := Option.bind_eq_some_iff.mp found
  exact free m (Array.mem_of_getElem? there) p program

namespace Machine

variable {c : RuleCache} {env : Environment} {active active' : List (RuleId × Nat)}
  {rule : RuleId} {pos : Nat}

/-! ## Masks -/

/-- The mask of a guard at a place. -/
def maskAt (guard : Guard) (pos : Nat) : Nat :=
  if guard.position = pos then guard.mask else 0

/-- A mask says which published rules are active at a place. -/
def Marks (c : RuleCache) (pos : Nat) (active : List (RuleId × Nat)) (mask : Nat) : Prop :=
  ∀ (rule : RuleId) (h : Handle), c.ready[rule]? = some h →
    ((rule, pos) ∈ active ↔ ∃ k, guardOf c.guards rule = .bit k ∧ mask.testBit k = true)

/-- Where rules have bits, the mask of the guard says which are active. -/
theorem marks_maskAt [RegexEngine] (parse : Parse c env) (walkless : c.Walkless) {book : Book}
    (tracks : Tracks c.guards active pos book) : Marks c pos active (maskAt book.guard pos) := by
  intro rule h ready
  obtain ⟨d, p, published⟩ := parse.cache.entries rule h ready
  have recursion : p.recursion = guardOf c.guards rule := published.recursion
  have noWalk := walkless h p published.program
  rw [← tracks.reentry rule pos (Nat.le_refl _)]
  cases guard : guardOf c.guards rule with
  | none => simp [isReentry]
  | walk => exact absurd (recursion.trans guard) noWalk
  | bit k =>
    obtain ⟨_, inside⟩ := bit_of_guardOf parse.cache.guards guard
    refine (isActive_iff inside).trans ?_
    unfold maskAt
    constructor
    · rintro ⟨here, set⟩
      refine ⟨k, rfl, ?_⟩
      rw [if_pos here]
      exact set
    · rintro ⟨k', same, set⟩
      cases same
      split at set
      case isTrue here => exact ⟨here, set⟩
      case isFalse =>
        rw [Nat.zero_testBit] at set
        cases set

/-- A mask says as much where the same rules are active. -/
theorem Marks.of_agrees {mask : Nat} (marks : Marks c pos active' mask)
    (agrees : Agrees c pos active active') : Marks c pos active mask :=
  fun rule h ready => (agrees rule h ready).trans (marks rule h ready)

/-- One mask stands for one set of active rules. -/
theorem Marks.agrees {mask : Nat} (marks : Marks c pos active mask)
    (marks' : Marks c pos active' mask) : Agrees c pos active active' :=
  fun rule h ready => (marks rule h ready).trans (marks' rule h ready).symm

/-! ## Remembered outcomes -/

/-- The outcome that is remembered. -/
def outcomeOf : MemoEntry → Option Product
  | .success _ product => some product
  | .failure => none

/-- The place behind a remembered outcome of a rule that was entered at a place. -/
def stopFrom (pos : Nat) : MemoEntry → Nat
  | .success stop _ => stop
  | .failure => pos

/-- A remembered outcome is that of every call with its key when nothing is remembered, and such
calls examine nothing beyond a place. -/
def Faithful (c : RuleCache) (env : Environment) (key : MemoKey) (entry : MemoEntry)
    (furthest : Nat) : Prop :=
  ∀ (active : List (RuleId × Nat)) (h : Handle) (name : Option String) (s : ParseState)
    (e : Ending), c.ready[key.rule]? = some h → Issued c (forgetful env) active h s →
      s.cursor.pos = key.pos → Marks c key.pos active key.mask → furthest ≤ s.cursor.furthest →
      Calls (forgetful env) h name s e →
      e.1 = .ok (outcomeOf entry) ∧ e.2.cursor = ⟨stopFrom key.pos entry, s.cursor.furthest⟩

/-- Everything remembered is faithful. -/
def Trusty (c : RuleCache) (env : Environment) (memo : MemoTable) (furthest : Nat) : Prop :=
  ∀ (key : MemoKey) (entry : MemoEntry), memo[key]? = some entry →
    Faithful c env key entry furthest

/-- What is to be trusted stays so when more of the text has been examined. -/
theorem Trusty.mono {memo : MemoTable} {furthest furthest' : Nat}
    (trusty : Trusty c env memo furthest) (le : furthest ≤ furthest') :
    Trusty c env memo furthest' :=
  fun key entry there active h name s e ready issued here marks further call =>
    trusty key entry there active h name s e ready issued here marks (Nat.le_trans le further) call

/-- The parse state on the left, where nothing is remembered, has the same cursor as the one on the
right, where everything remembered is faithful. -/
def Mirrors (c : RuleCache) (env : Environment) (s s' : ParseState) : Prop :=
  s.cursor = s'.cursor ∧ Trusty c env s'.book.memo s'.cursor.furthest

/-- Mirroring looks at the cursor, the guard, the walks and the memo table only. -/
theorem mirrors_steady (c : RuleCache) (env : Environment) : Steady (Mirrors c env) where
  pos _ _ mirrors := congrArg Cursor.pos mirrors.1
  moved cursor cursor' book book' pos reach mirrors := by
    obtain ⟨rfl, trusty⟩ := mirrors
    exact ⟨rfl, trusty.mono (Nat.le_max_left _ _)⟩

/-! ## Calls side by side -/

/-- The outcome of a call is faithful. -/
theorem faithful_of_calls [RegexEngine] (parse : Parse c env) {h : Handle} {name : Option String}
    {s : ParseState} {e : Ending} (ready : c.ready[rule]? = some h)
    (issued : Issued c (forgetful env) active h s) (call : Calls (forgetful env) h name s e)
    {mask : Nat} (marks : Marks c s.cursor.pos active mask) {entry : MemoEntry}
    (outcome : e.1 = .ok (outcomeOf entry))
    (place : e.2.cursor.pos = stopFrom s.cursor.pos entry) :
    Faithful c env ⟨rule, s.cursor.pos, mask⟩ entry e.2.cursor.furthest := by
  intro active' h' name' s' e' ready' issued' here marks' further call'
  cases ready.symm.trans ready'
  obtain ⟨depth, call⟩ := call
  obtain ⟨same, pos, reach, reached, reached'⟩ := calls_alike (parse_forgetful parse) rfl issued
    issued' here.symm (marks.agrees marks') call call'
  refine ⟨same.symm.trans outcome, ?_⟩
  have unmoved : e'.2.cursor.furthest = s'.cursor.furthest := by
    rw [reached', Nat.max_eq_left]
    rw [reached] at further
    exact Nat.le_trans (Nat.le_max_right _ _) further
  rw [← unmoved, ← place, pos]

/-- A replayed outcome is the one that was remembered. -/
theorem replayed_fst (entry : MemoEntry) (s : ParseState) :
    (replayed entry s).1 = .ok (outcomeOf entry) := by
  cases entry <;> rfl

/-- A replayed match ends where the remembered one did, and examines nothing. -/
theorem replayed_cursor (entry : MemoEntry) (s : ParseState) :
    (replayed entry s).2.cursor = ⟨stopFrom s.cursor.pos entry, s.cursor.furthest⟩ := by
  cases entry <;> rfl

/-- A replay leaves the memo table as it is. -/
theorem replayed_memo (entry : MemoEntry) (s : ParseState) :
    (replayed entry s).2.book.memo = s.book.memo := by
  cases entry <;> rfl

/-- The key of a call has the mask of the rules that are active at its place. -/
theorem memoKey_precise (precise : env.memoMode = .precise) {p : Program} (named : p.rule = rule)
    {guard : Guard} {key : MemoKey} (made : memoKey env.memoMode p pos guard = some key) :
    key = ⟨rule, pos, maskAt guard pos⟩ := by
  unfold memoKey at made
  rw [precise, named] at made
  split at made
  · cases made
  · exact (Option.some.inj made).symm

/-- What is remembered after a call was before, or is how the call ended. -/
theorem remembered_closed {p : Program} {s : ParseState} {inner : Ending} {key : MemoKey}
    {entry : MemoEntry}
    (there : (closed (entryOf env p s) inner).2.book.memo[key]? = some entry) :
    inner.2.book.memo[key]? = some entry ∨
      memoKey env.memoMode p s.cursor.pos s.book.guard = some key ∧
        (closed (entryOf env p s) inner).1 = .ok (outcomeOf entry) ∧
        (closed (entryOf env p s) inner).2.cursor.pos = stopFrom s.cursor.pos entry := by
  obtain ⟨fault | outcome, after⟩ := inner
  · rw [closed, abandon_memo] at there
    exact .inl there
  · rw [closed, leaveRule_memo] at there
    obtain there | ⟨made, matched, failed⟩ := remember_cases there
    · exact .inl there
    · refine .inr ⟨made, ?_⟩
      rw [closed_fst, closed_cursor]
      cases outcome with
      | none =>
        rw [failed rfl]
        exact ⟨rfl, rfl⟩
      | some product =>
        rw [matched product rfl]
        exact ⟨rfl, rfl⟩

/-- Marks of the rules that are active on the left, where the same are active on the right. -/
theorem SideBySide.marks [RegexEngine] (parse : Parse c env) (walkless : c.Walkless)
    {K : ParseState → ParseState → Prop} {h : Handle} {s s' : ParseState} {e : Ending}
    (sides : SideBySide c env (fun _ => True) K active active' rule h s s' e)
    (here : s.cursor.pos = s'.cursor.pos) :
    Marks c s.cursor.pos active (maskAt s'.book.guard s.cursor.pos) := by
  have marks := marks_maskAt parse walkless sides.issued.tracks
  rw [← here] at marks
  exact marks.of_agrees sides.covers.agrees

/-- Calls that remember outcomes by rule, place and active rules keep what is remembered
faithful. -/
theorem lasting_mirrors [RegexEngine] (parse : Parse c env) (precise : env.memoMode = .precise)
    (walkless : c.Walkless) : Lasting c env (fun _ => True) (fun _ _ => True) (Mirrors c env) where
  steady := mirrors_steady c env
  same _ := trivial
  begun _ mirrors := by
    rw [Mirrors, begun_cursor, begun_cursor, begun_memo]
    exact mirrors
  cut _ mirrors := mirrors
  replayed {active _ _ h _ s s' e _} sides named found := by
    obtain ⟨cursor, trusty⟩ := sides.related
    have here := congrArg Cursor.pos cursor
    obtain ⟨key, made, there⟩ := Option.bind_eq_some_iff.mp found
    have faithful := trusty key _ there
    rw [memoKey_precise precise named made, ← here] at faithful
    obtain ⟨name, sparing⟩ := sides.call.sparing
    obtain ⟨outcome, place⟩ := faithful active h name s e sides.call.ready sides.call.issued rfl
      (sides.marks parse walkless here)
      (Nat.le_of_eq (congrArg Cursor.furthest cursor).symm) sparing.calls
    refine ⟨outcome.trans (replayed_fst _ s').symm, ?_⟩
    rw [Mirrors, replayed_memo, replayed_cursor, place, ← cursor]
    exact ⟨rfl, cursor ▸ trusty⟩
  closed {active _ _ h p s s' inner inner'} sides named alike := by
    obtain ⟨outcome, cursor, trusty⟩ := alike
    have here := congrArg Cursor.pos sides.related.1
    obtain ⟨ended, place⟩ := closed_alike (entryOf (forgetful env) p s) (entryOf env p s') here
      outcome cursor
    refine ⟨ended, place, fun key entry there => ?_⟩
    obtain there | ⟨made, remembered, stop⟩ := remembered_closed there
    · rw [closed_cursor]
      exact trusty key entry there
    · obtain ⟨name, sparing⟩ := sides.call.sparing
      rw [memoKey_precise precise named made, ← here, ← place]
      rw [← here, ← place] at stop
      exact faithful_of_calls parse sides.call.ready sides.call.issued sparing.calls
        (sides.marks parse walkless here) (ended.trans remembered) stop

/-- Calls that remember outcomes end as calls that remember nothing do. -/
theorem calls_mirror [RegexEngine] (parse : Parse c env) (precise : env.memoMode = .precise)
    (walkless : c.Walkless) {depth : Nat} {h : Handle} {name : Option String} {s s' : ParseState}
    {e e' : Ending} (issued : Issued c (forgetful env) active h s)
    (issued' : Issued c env active h s') (mirrors : Mirrors c env s s')
    (call : Calls (forgetful env) h name s e) (call' : CallsWithin env depth h name s' e') :
    EndAlike (Mirrors c env) e e' := by
  obtain ⟨_, call⟩ := call
  exact ((lasting_mirrors parse precise walkless).calls parse issued issued' (.refl c _ _ active)
    mirrors trivial call.sparing ⟨depth, call'⟩).1

/-! ## Matches one after another -/

/-- Matches one after another on one parse state: the result of each, with the place behind it and
how far the text was examined by then. Nothing if the fuel does not last. -/
def matchAll (env : Environment) (fuel : Nat) :
    List Handle → ParseState → Option (List (Except EngineFault (Option Value) × Cursor))
  | [], _ => some []
  | h :: rest, state =>
    match matchRule env fuel h state with
    | none => none
    | some (outcome, state) =>
      (matchAll env fuel rest state).map fun later => (outcome, state.cursor) :: later

/-- A match that remembers outcomes comes out as one that remembers nothing does. -/
theorem match_mirrors [RegexEngine] (parse : Parse c env) (precise : env.memoMode = .precise)
    (walkless : c.Walkless) {s s' : ParseState} (rests : Rests c (forgetful env) anything s)
    (rests' : Rests c env anything s') (mirrors : Mirrors c env s s') {h : Handle}
    (ready : c.ready[rule]? = some h) :
    ∃ enough outcome t t', (∀ fuel, enough ≤ fuel →
        matchRule (forgetful env) fuel h s = some (outcome, t) ∧
          matchRule env fuel h s' = some (outcome, t')) ∧ Mirrors c env t t' :=
  (lasting_mirrors parse precise walkless).match parse rests rests' mirrors ready

/-- Many matches on one state come to the same results with memo and without. -/
theorem matchAll_mirrors [RegexEngine] (parse : Parse c env) (precise : env.memoMode = .precise)
    (walkless : c.Walkless) {s s' : ParseState} (rests : Rests c (forgetful env) anything s)
    (rests' : Rests c env anything s') (mirrors : Mirrors c env s s') {handles : List Handle}
    (ready : ∀ h ∈ handles, ∃ rule : RuleId, c.ready[rule]? = some h) :
    ∃ enough results, ∀ fuel, enough ≤ fuel →
      matchAll (forgetful env) fuel handles s = some results ∧
        matchAll env fuel handles s' = some results := by
  induction handles generalizing s s' with
  | nil => exact ⟨0, [], fun _ _ => ⟨rfl, rfl⟩⟩
  | cons h rest ih =>
    obtain ⟨rule, first⟩ := ready h List.mem_cons_self
    obtain ⟨enough, outcome, t, t', found, after⟩ :=
      match_mirrors parse precise walkless rests rests' mirrors first
    obtain ⟨here, here'⟩ := found enough (Nat.le_refl _)
    have restsAfter := rests.after (parse_forgetful parse) (anything_closed _ _) first here
    have restsAfter' := rests'.after parse (anything_closed _ _) first here'
    obtain ⟨enough', results, later⟩ := ih restsAfter restsAfter' after
      fun h member => ready h (List.mem_cons_of_mem _ member)
    refine ⟨max enough enough', (outcome, t.cursor) :: results, fun fuel le => ?_⟩
    obtain ⟨now, now'⟩ := found fuel (Nat.le_trans (Nat.le_max_left _ _) le)
    obtain ⟨then_, then'⟩ := later fuel (Nat.le_trans (Nat.le_max_right _ _) le)
    constructor
    · rw [matchAll, now]
      dsimp only
      rw [then_]
      rfl
    · rw [matchAll, now']
      dsimp only
      rw [then', after.1]
      rfl

/-- Remembering outcomes by rule, place and active rules changes no result, no place, and not how
far the text is examined: for every grammar that can be built, whatever was asked for, as long as
no program is guarded by a walk, and for every sequence of matches on one parse state. -/
theorem matchAll_transparent [RegexEngine] {d : GrammarDraft} {g : Grammar}
    (built : d.build = .ok g) (m : RecordModel) {c : RuleCache}
    (history : c.History g m.toObjectModel)
    (walkless : c.Walkless) {text : String} (short : text.utf8ByteSize < 2 ^ 63) (user : Value)
    (traced : Bool) {pos : Nat} (le : pos ≤ text.utf8ByteSize) {handles : List Handle}
    (ready : ∀ h ∈ handles, ∃ rule : RuleId, c.ready[rule]? = some h) :
    ∃ enough results, ∀ fuel, enough ≤ fuel →
      matchAll (environmentOf c text user .off) fuel handles
          ⟨⟨pos, 0⟩, (ParseState.initial traced).book⟩ = some results ∧
        matchAll (environmentOf c text user .precise) fuel handles
          ⟨⟨pos, 0⟩, (ParseState.initial traced).book⟩ = some results := by
  have parse := parse_of_history built history short user .precise
  let s : ParseState := ⟨⟨pos, 0⟩, (ParseState.initial traced).book⟩
  have reached' : Reached c (environmentOf c text user .precise) s := .start traced le
  have reached : Reached c (environmentOf c text user .off) s := .start traced le
  have mirrors : Mirrors c (environmentOf c text user .precise) s s := by
    refine ⟨rfl, fun key entry there => ?_⟩
    simp [s, ParseState.initial] at there
  exact matchAll_mirrors parse rfl walkless
    (reached.rests (parse_forgetful parse) (anything_closed _ _))
    (reached'.rests parse (anything_closed _ _)) mirrors ready

section

attribute [local instance] letterEngine

/-- The alternative is guarded by a bit, and the other programs are not guarded. -/
theorem nested_walkless : (nestedCache.get ⟨1⟩).2.Walkless := by
  refine RuleCache.walkless_of_arena ?_
  rw [nested_get.2.1]
  decide

/-- Three letters a, and what follows them: the matches have the same results, and four calls of
the first one are answered from the table. -/
theorem matchAll_transparent_nested :
    (∃ s, matchRule (environmentOf (nestedCache.get ⟨1⟩).2 "aaa" .null .precise) 100 ⟨0⟩
      (.initial false) = some (.ok (some (.str "a")), s) ∧ s.book.stats.memoHits = 4) ∧
    ∃ enough results, ∀ fuel, enough ≤ fuel →
      matchAll (environmentOf (nestedCache.get ⟨1⟩).2 "aaa" .null .off) fuel [⟨0⟩, ⟨0⟩]
          (.initial false) = some results ∧
        matchAll (environmentOf (nestedCache.get ⟨1⟩).2 "aaa" .null .precise) fuel [⟨0⟩, ⟨0⟩]
          (.initial false) = some results := by
  obtain ⟨s, found, stats⟩ := nested_recalls false
  refine ⟨⟨s, found, congrArg Stats.memoHits stats⟩, ?_⟩
  refine matchAll_transparent nested_built .empty (nested_history ⟨1⟩) nested_walkless (by decide)
    .null false (Nat.zero_le _) fun h member => ⟨⟨1⟩, ?_⟩
  rcases List.mem_cons.mp member with rfl | member
  · exact nested_ready
  · rw [List.mem_singleton.mp member]
    exact nested_ready

end

end Machine

end Packrat
