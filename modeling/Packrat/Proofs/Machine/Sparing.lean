import Packrat.Proofs.Machine.Frame

/-!
# Sparing calls

Calls that end without a refusal of any but some rules, at whatever depth. If the guard may refuse
every rule, all calls are sparing; if it may refuse none, no call at all is refused.

* `SparingWithin`, `Sparing`: how such calls can end, by the nesting of calls below them.

Main statement: `sparing_iff`.
-/

namespace Packrat.Machine

section

variable (env : Environment) (refusable : RuleId → Prop)

/-- How a call can end with calls nested to some depth below it, none of which is refused but those
of some rules. -/
def SparingWithin : (depth : Nat) → CallRelation
  | 0 => fun _ _ _ _ => False
  | depth + 1 => fun h name state ending =>
    Answers env (SparingWithin depth) h name state ending ∧
      ∀ p, programOf env h = .ok p →
        isReentry p.recursion p.rule state.cursor.pos state.book = true → refusable p.rule

/-- How a call can end if no call is refused but those of some rules. -/
def Sparing (h : Handle) (name : Option String) (state : ParseState) (ending : Ending) : Prop :=
  ∃ depth, SparingWithin env refusable depth h name state ending

end

variable {env : Environment} {refusable : RuleId → Prop} {h : Handle} {name : Option String}
  {state : ParseState} {ending : Ending}

/-- A sparing call of some depth is a call of that depth. -/
theorem SparingWithin.calls {depth : Nat}
    (sparing : SparingWithin env refusable depth h name state ending) :
    CallsWithin env depth h name state ending := by
  induction depth generalizing h name state ending with
  | zero => exact sparing
  | succ depth ih => exact sparing.1.mono fun _ _ _ _ inner => ih inner

/-- A sparing call is a call. -/
theorem Sparing.calls (sparing : Sparing env refusable h name state ending) :
    Calls env h name state ending := by
  obtain ⟨depth, sparing⟩ := sparing
  exact ⟨depth, sparing.calls⟩

/-- If every rule may be refused, all calls are sparing. -/
theorem CallsWithin.sparing {depth : Nat} (call : CallsWithin env depth h name state ending) :
    SparingWithin env (fun _ => True) depth h name state ending := by
  induction depth generalizing h name state ending with
  | zero => exact call
  | succ depth ih =>
    exact ⟨Answers.mono (fun _ _ _ _ inner => ih inner) call, fun _ _ _ => trivial⟩

/-- A sparing call of some depth is one of every greater depth. -/
theorem SparingWithin.mono {depth depth' : Nat} (le : depth ≤ depth')
    {h : Handle} {name : Option String} {state : ParseState} {ending : Ending}
    (sparing : SparingWithin env refusable depth h name state ending) :
    SparingWithin env refusable depth' h name state ending := by
  induction depth generalizing depth' h name state ending with
  | zero => exact sparing.elim
  | succ depth ih =>
    cases depth' with
    | zero => omega
    | succ depth' =>
      exact ⟨sparing.1.mono fun _ _ _ _ inner => ih (by omega) inner, sparing.2⟩

/-- A call is sparing if the calls below it are and it is refused for one of the rules at most. -/
theorem sparing_iff : Sparing env refusable h name state ending ↔
    Answers env (Sparing env refusable) h name state ending ∧
      ∀ p, programOf env h = .ok p →
        isReentry p.recursion p.rule state.cursor.pos state.book = true → refusable p.rule := by
  constructor
  · rintro ⟨_ | depth, sparing⟩
    · exact sparing.elim
    · exact ⟨sparing.1.mono fun _ _ _ _ inner => ⟨depth, inner⟩, sparing.2⟩
  · rintro ⟨answers, allowed⟩
    cases answers with
    | missing program => exact ⟨1, .missing program, allowed⟩
    | answered program enter => exact ⟨1, .answered program enter, allowed⟩
    | ran program enter runs =>
      obtain ⟨depth, runs⟩ := runs.bounded SparingWithin.mono
      exact ⟨depth + 1, .ran program enter runs, allowed⟩

end Packrat.Machine
