import Packrat.Proofs.Siblings

/-!
# Walks instead of bits

A rule may be guarded by a bit of the mask or by a walk. As long as outcomes are not remembered by
active rules, it does not matter which: the guard refuses the same calls. Where they are, it does:
only the mask is part of what outcomes are remembered by, so an outcome that came about while a rule
with a walk was active is used where that rule is not.

* `RuleCache.withWalks`: the cache with walks in place of the bits of some rules.

Main statement: `match_withWalks`.
-/

namespace Packrat

/-- The guard of a rule, with a walk in place of a bit where asked for. -/
def RecursionCheck.walkIf (walk : Bool) : RecursionCheck → RecursionCheck
  | .bit index => if walk then .walk else .bit index
  | guard => guard

/-- A guard is a bit if it was that bit and was not made a walk. -/
theorem RecursionCheck.walkIf_eq_bit {walk : Bool} {guard : RecursionCheck} {k : Nat} :
    guard.walkIf walk = .bit k ↔ guard = .bit k ∧ walk = false := by
  cases guard <;> cases walk <;> simp [walkIf]

/-- A rule has no guard if it had none before. -/
theorem RecursionCheck.walkIf_eq_none {walk : Bool} {guard : RecursionCheck} :
    guard.walkIf walk = .none ↔ guard = .none := by
  cases guard <;> cases walk <;> simp [walkIf]

/-- The program with a walk in place of its bit, if that is asked for of its rule. -/
def Program.withWalk (walks : RuleId → Bool) (p : Program) : Program :=
  { p with recursion := p.recursion.walkIf (walks p.rule) }

/-- The cache with walks in place of the bits of some rules. -/
def RuleCache.withWalks (c : RuleCache) (walks : RuleId → Bool) : RuleCache :=
  { c with
    arena := c.arena.map fun m => { m with program? := m.program?.map (Program.withWalk walks) }
    guards := c.guards.map fun rule guard => guard.walkIf (walks rule) }

namespace RuleCache

variable {c : RuleCache} {walks : RuleId → Bool} {rule : RuleId}

/-- The guards with walks are those of the cache, some made walks. -/
theorem guards_withWalks (c : RuleCache) (walks : RuleId → Bool) (rule : RuleId) :
    (c.withWalks walks).guards[rule]? =
      (c.guards[rule]?).map (RecursionCheck.walkIf (walks rule)) := by
  simp [withWalks]

/-- The same rules are guarded. -/
theorem contains_withWalks (c : RuleCache) (walks : RuleId → Bool) (rule : RuleId) :
    (c.withWalks walks).guards.contains rule = c.guards.contains rule := by
  simp [withWalks]

/-- A bit that is left is the one that was given. -/
theorem bit_of_withWalks {k : Nat} (bit : (c.withWalks walks).guards[rule]? = some (.bit k)) :
    c.guards[rule]? = some (.bit k) := by
  rw [guards_withWalks] at bit
  obtain ⟨guard, there, same⟩ := Option.map_eq_some_iff.mp bit
  rw [there, (RecursionCheck.walkIf_eq_bit.mp same).1]

/-- Making some guards walks leaves the table of guards sound. -/
theorem guardsSound_withWalks (sound : GuardsSound c.guards c.nextBit) :
    GuardsSound (c.withWalks walks).guards (c.withWalks walks).nextBit where
  bits := sound.bits
  given rule k bit := sound.given rule k (bit_of_withWalks bit)
  distinct rule rule' k bit bit' :=
    sound.distinct rule rule' k (bit_of_withWalks bit) (bit_of_withWalks bit')
  real rule none := by
    rw [guards_withWalks] at none
    obtain ⟨guard, there, same⟩ := Option.map_eq_some_iff.mp none
    rw [RecursionCheck.walkIf_eq_none.mp same] at there
    exact sound.real rule there

/-- The matchers have programs with walks. -/
theorem program_withWalks {h : Handle} {p : Program}
    (program : (c.arena.get? h).bind Matcher.program? = some p) :
    ((c.withWalks walks).arena.get? h).bind Matcher.program? = some (p.withWalk walks) := by
  obtain ⟨m, there, program⟩ := Option.bind_eq_some_iff.mp program
  unfold Arena.get? at there ⊢
  simp [withWalks, there, program]

/-- A cache with walks is sound. -/
theorem sound_withWalks [RegexEngine] (sound : c.Sound) : (c.withWalks walks).Sound := by
  refine ⟨?_, guardsSound_withWalks sound.guards⟩
  intro rule h ready
  obtain ⟨d, p, published⟩ := sound.entries rule h ready
  have compiled := published.compiled
  refine ⟨d, p.withWalk walks, program_withWalks published.program, ?_, ?_, published.callees, ?_,
    ?_⟩
  · obtain ⟨slot, b, emits, placed, result⟩ := compiled.code
    exact ⟨compiled.found, compiled.name, compiled.rule, compiled.output, compiled.concrete, slot,
      b, emits, ⟨placed.name, placed.code, placed.labels, placed.intSlots, placed.objSlots,
        placed.consts, placed.calleeOf, placed.sound⟩, result⟩
  · rw [guards_withWalks, Program.withWalk, published.recursion, compiled.rule]
    cases c.guards[rule]? <;> rfl
  · obtain ⟨raw, lowered, same, answered⟩ := published.linked
    refine ⟨raw, lowered, ?_, answered⟩
    exact congrArg (fun q => { q with recursion := (p.withWalk walks).recursion }) same
  · refine published.grounded.mono fun rule given => ?_
    rw [contains_withWalks]
    exact given

end RuleCache

namespace Machine

/-- Walks are as good as bits unless outcomes are remembered by active rules: in every match of a
published rule, whatever was asked for before, walks in place of the bits of some rules change
neither the result nor the place where the match ends. -/
theorem match_withWalks [RegexEngine] {d : GrammarDraft} {g : Grammar} (built : d.build = .ok g)
    (m : RecordModel) {c : RuleCache} (history : c.History g m.toObjectModel) {rule : RuleId}
    {h : Handle} (ready : c.ready[rule]? = some h) (walks : RuleId → Bool) {text : String}
    (short : text.utf8ByteSize < 2 ^ 63) (user : Value) {mode : MemoMode}
    (imprecise : mode ≠ .precise) (traced : Bool) {pos : Nat} (le : pos ≤ text.utf8ByteSize) :
    ∃ enough outcome s s', (∀ fuel, enough ≤ fuel →
        matchRule (environmentOf c text user mode) fuel h
          ⟨⟨pos, 0⟩, (ParseState.initial traced).book⟩ = some (outcome, s) ∧
        matchRule (environmentOf (c.withWalks walks) text user mode) fuel h
          ⟨⟨pos, 0⟩, (ParseState.initial traced).book⟩ = some (outcome, s')) ∧
      s.cursor = s'.cursor := by
  have parse := parse_of_history built history short user mode
  have parse' : Parse (c.withWalks walks) (environmentOf (c.withWalks walks) text user mode) :=
    ⟨RuleCache.sound_withWalks parse.cache, parse.inferred, parse.record, rfl, rfl, short⟩
  have siblings : Siblings c (c.withWalks walks) (environmentOf c text user mode)
      (environmentOf (c.withWalks walks) text user mode) := ⟨parse, parse', rfl, rfl, rfl⟩
  have rests {c : RuleCache} : Rests c (environmentOf c text user mode) anything
      ⟨⟨pos, 0⟩, (ParseState.initial traced).book⟩ := .blank le rfl rfl rfl
  apply match_siblings siblings ready ready (fun precise => absurd precise imprecise) le rfl rfl rfl
  · intro refused refuses
    rw [RuleCache.contains_withWalks]
    exact guarded_of_refuses parse rests ready refuses
  · intro refused refuses
    rw [← RuleCache.contains_withWalks c walks]
    exact guarded_of_refuses parse' rests ready refuses

section

attribute [local instance] letterEngine

/-- Two rules each of which matches where the other one does not, with a walk as the guard of the
one rule. -/
theorem match_withWalks_contrary : ∃ enough outcome s s', (∀ fuel, enough ≤ fuel →
      matchRule (environmentOf (contraryCache.get ⟨0⟩).2 "" .null .off) fuel ⟨0⟩
        (.initial false) = some (outcome, s) ∧
      matchRule (environmentOf ((contraryCache.get ⟨0⟩).2.withWalks fun _ => true) "" .null .off)
        fuel ⟨0⟩ (.initial false) = some (outcome, s')) ∧ s.cursor = s'.cursor := by
  apply match_withWalks contrary_built .empty (contrary_history ⟨0⟩) contrary_ready fun _ => true
  · decide
  · decide
  · exact Nat.zero_le _

end

end Machine

end Packrat
