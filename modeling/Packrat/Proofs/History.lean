import Packrat.Proofs.Siblings
import Packrat.Proofs.Uncut

/-!
# What was asked for before

Which rules of a cycle are guarded depends on the requests that a cache has seen: a session guards
the rules that it meets again while they are in progress. A match comes out differently if the guard
refuses a call of a rule that was not guarded after other requests; apart from that, what was asked
for before does not show.

Main statements: `match_history` and `history_shows`.
-/

namespace Packrat.Machine

/-- What was asked for before does not show: two caches for one grammar, whatever was asked of each
of them, give the same result of a match and leave it at the same place, if every rule for which one
of the matches refuses a call is guarded in the other cache, too. Where outcomes are remembered by
active rules, no program may be guarded by a walk. -/
theorem match_history [RegexEngine] {d : GrammarDraft} {g : Grammar} (built : d.build = .ok g)
    (m : RecordModel) {c c' : RuleCache} (history : c.History g m.toObjectModel)
    (history' : c'.History g m.toObjectModel) {rule : RuleId} {h h' : Handle}
    (ready : c.ready[rule]? = some h) (ready' : c'.ready[rule]? = some h') {text : String}
    (short : text.utf8ByteSize < 2 ^ 63) (user : Value) (mode : MemoMode)
    (walkless : mode = .precise → c.Walkless ∧ c'.Walkless) (traced : Bool) {pos : Nat}
    (le : pos ≤ text.utf8ByteSize)
    (covered : ∀ refused, Refuses (environmentOf c text user mode) h
      ⟨⟨pos, 0⟩, (ParseState.initial traced).book⟩ refused → c'.guards.contains refused = true)
    (covered' : ∀ refused, Refuses (environmentOf c' text user mode) h'
      ⟨⟨pos, 0⟩, (ParseState.initial traced).book⟩ refused → c.guards.contains refused = true) :
    ∃ enough outcome s s', (∀ fuel, enough ≤ fuel →
        matchRule (environmentOf c text user mode) fuel h
          ⟨⟨pos, 0⟩, (ParseState.initial traced).book⟩ = some (outcome, s) ∧
        matchRule (environmentOf c' text user mode) fuel h'
          ⟨⟨pos, 0⟩, (ParseState.initial traced).book⟩ = some (outcome, s')) ∧
      s.cursor = s'.cursor := by
  have parse := parse_of_history built history short user mode
  have parse' := parse_of_history built history' short user mode
  obtain ⟨-, rfl, model⟩ := history.sound
  obtain ⟨-, grammar', model'⟩ := history'.sound
  have siblings : Siblings c c' (environmentOf c text user mode)
      (environmentOf c' text user mode) := by
    refine ⟨parse, parse', grammar', model'.trans model.symm, ?_⟩
    rw [environmentOf, environmentOf, model, model']
  exact match_siblings siblings ready ready' walkless le rfl rfl rfl covered covered'

section

attribute [local instance] letterEngine

/-- The match of three letters a where the text between two letters was asked for. -/
theorem wrapped_recalls : ∃ s,
    matchRule (environmentOf (nestedCache.get ⟨2⟩).2 "aaa" .null .precise) 100 ⟨2⟩
      (.initial false) = some (.ok (some (.str "a")), s) ∧ s.book.stats = ⟨19, 3, 0⟩ := by
  apply exists_of_stats
  rw [environmentOf, wrapped_get.2.1, (nested_history ⟨2⟩).sound.2.2]
  cbv

/-- The text between two letters is guarded there by a bit, and the other programs are not
guarded. -/
theorem wrapped_walkless : (nestedCache.get ⟨2⟩).2.Walkless := by
  refine RuleCache.walkless_of_arena ?_
  rw [wrapped_get.2.1]
  decide

/-- Rules that call each other: the alternative is guarded where it was asked for, and the text
between two letters where that was. Three letters are matched alike in both caches, as no call is
refused in either of them. -/
theorem match_history_nested :
    ((nestedCache.get ⟨1⟩).2.guards.contains ⟨2⟩ = false ∧
      (nestedCache.get ⟨2⟩).2.guards.contains ⟨2⟩ = true) ∧
    ∃ enough outcome s s', (∀ fuel, enough ≤ fuel →
        matchRule (environmentOf (nestedCache.get ⟨1⟩).2 "aaa" .null .precise) fuel ⟨0⟩
          (.initial false) = some (outcome, s) ∧
        matchRule (environmentOf (nestedCache.get ⟨2⟩).2 "aaa" .null .precise) fuel ⟨2⟩
          (.initial false) = some (outcome, s')) ∧ s.cursor = s'.cursor := by
  have guards : (nestedCache.get ⟨1⟩).2.guards.contains ⟨2⟩ = false ∧
      (nestedCache.get ⟨2⟩).2.guards.contains ⟨2⟩ = true := by
    rw [nested_get.2.2, wrapped_get.2.2.1]
    exact ⟨by cbv, by cbv⟩
  refine ⟨guards, ?_⟩
  obtain ⟨s, found, stats⟩ := nested_recalls false
  obtain ⟨s', found', stats'⟩ := wrapped_recalls
  have uncut : cuts s = 0 := congrArg Stats.recursionCuts stats
  have uncut' : cuts s' = 0 := congrArg Stats.recursionCuts stats'
  apply match_history nested_built .empty (nested_history ⟨1⟩) (nested_history ⟨2⟩) nested_ready
    wrapped_get.2.2.2
  · decide
  · exact fun _ => ⟨nested_walkless, wrapped_walkless⟩
  · exact Nat.zero_le _
  · exact fun refused refuses =>
      absurd (cuts_lt_of_refuses found refuses) (by rw [uncut]; exact Nat.not_lt_zero _)
  · exact fun refused refuses =>
      absurd (cuts_lt_of_refuses found' refuses) (by rw [uncut']; exact Nat.not_lt_zero _)

/-- The one rule of two, each of which matches where the other one does not: it fails where it was
asked for first, and matches where the other one was. -/
theorem history_shows :
    ((contraryCache.get ⟨0⟩).1 = .ok ⟨0⟩ ∧
      (matchRule (environmentOf (contraryCache.get ⟨0⟩).2 "" .null .off) 30 ⟨0⟩
        (.initial false)).map Prod.fst = some (.ok none)) ∧
    (((contraryCache.get ⟨1⟩).2.get ⟨0⟩).1 = .ok ⟨1⟩ ∧
      (matchRule (environmentOf ((contraryCache.get ⟨1⟩).2.get ⟨0⟩).2 "" .null .off) 30 ⟨1⟩
        (.initial false)).map Prod.fst = some (.ok (some .null))) := by
  refine ⟨⟨contrary_get_one.1, ?_⟩, ?_, ?_⟩
  · rw [contrary_environment]
    rfl
  · rw [RuleCache.get_of_ready contrary_get_other.2.2]
  · rw [RuleCache.get_of_ready contrary_get_other.2.2, environmentOf, contrary_get_other.2.1,
      (contrary_history ⟨1⟩).sound.2.2]
    rfl

end

end Packrat.Machine
