import Packrat.Proofs.Machine.Alike

/-!
# Linked programs

A program linked with the matchers of two caches: the two do the same, but for the matchers that
they call. Only calls look at the matchers of callees, and no instruction looks at the guard.

* `CallFree`: an action does not lead to a call.

Main statement: `twins_of_link`.
-/

namespace Packrat.Machine

/-! ## Instructions that do not call -/

/-- An action does not lead to a call. -/
def CallFree (act : Exec Control) : Prop :=
  ∀ before after callee name dst onFail, act before ≠ .ok (.call callee name dst onFail) after

/-- Returning what is no call is free of calls. -/
theorem CallFree.pure {control : Control}
    (inside : ∀ callee name dst onFail, control ≠ .call callee name dst onFail) :
    CallFree (pure control : Exec Control) := by
  intro before after callee name dst onFail same
  cases same
  exact inside _ _ _ _ rfl

/-- What comes first has no say in it. -/
theorem CallFree.bind {α : Type} {act : Exec α} {go : α → Exec Control}
    (second : ∀ a, CallFree (go a)) : CallFree (act >>= go) := by
  intro before after callee name dst onFail same
  change EStateM.bind act go before = _ at same
  unfold EStateM.bind at same
  cases first : act before with
  | ok a middle =>
    rw [first] at same
    exact second a middle after callee name dst onFail same
  | error fault middle =>
    rw [first] at same
    cases same

/-- Going on to the next instruction is no call. -/
theorem callFree_thenNext (act : Exec Unit) : CallFree (thenNext act) :=
  .bind fun _ => .pure nofun

/-- Going to a label is no call. -/
theorem callFree_goTo (p : Program) (label : Label) : CallFree (goTo p label) :=
  .bind fun _ => .pure nofun

/-- Only a call leads to a call. -/
theorem execute_callFree (env : Environment) (p : Program) (i : Instruction)
    (inside : ∀ index name dst onFail, i ≠ .call index name dst onFail) :
    CallFree (execute env p i) := by
  cases i with
  | jump target => exact callFree_goTo p target
  | jumpIf cond a b target =>
    refine .bind fun x => ?_
    have decide (y : Int) :
        CallFree (if cond.holds x y then goTo p target else pure Control.next : Exec Control) := by
      split
      · exact callFree_goTo p target
      · exact .pure nofun
    cases b with
    | slot slot => exact .bind decide
    | imm n => exact .bind decide
  | jumpIfObjEq a b target =>
    refine .bind fun x => .bind fun y => ?_
    split
    · exact callFree_goTo p target
    · exact .pure nofun
  | ret success =>
    cases success with
    | false => exact .pure nofun
    | true => exact .bind fun _ => .pure nofun
  | invoke native args dst onFail =>
    refine .bind fun result => ?_
    split
    · exact callFree_thenNext _
    · exact callFree_goTo p onFail
  | call index name dst onFail => exact absurd rfl (inside index name dst onFail)
  | _ => exact callFree_thenNext _

/-- Only calls look at callees, and no instruction looks at the guard or the matchers. -/
theorem execute_unlinked (env : Environment) (arena : Arena) (p : Program) (callees : Array Callee)
    (guard : RecursionCheck) (i : Instruction)
    (inside : ∀ index name dst onFail, i ≠ .call index name dst onFail) :
    execute { env with arena } { p with callees, recursion := guard } i = execute env p i := by
  cases i with
  | invoke native args dst onFail => cases native <;> rfl
  | ret success => cases success <;> rfl
  | call index name dst onFail => exact absurd rfl (inside index name dst onFail)
  | _ => rfl

/-- A call looks its matcher up. -/
theorem execute_call (env : Environment) (p : Program) (index : CalleeIndex) (name : Option String)
    (dst : Option Slot) (onFail : Label) (before : Local) :
    execute env p (.call index name dst onFail) before =
      match p.callee index with
      | .ok h => .ok (.call h name dst onFail) before
      | .error fault => .error fault before := by
  change (lookUp (p.callee index) >>= fun callee =>
    pure (Control.call callee name dst onFail) : Exec Control) before = _
  cases p.callee index <;> rfl

/-- An instruction that leads to a call is one, and it has looked its callee up. -/
theorem call_of_execute {env : Environment} {p : Program} {i : Instruction}
    {before after : Local} {callee : Handle} {name : Option String} {dst : Option Slot}
    {onFail : Label}
    (result : execute env p i before = .ok (.call callee name dst onFail) after) :
    ∃ index, i = .call index name dst onFail ∧ p.callee index = .ok callee := by
  by_cases isCall : ∃ index name dst onFail, i = .call index name dst onFail
  · obtain ⟨index, _, _, _, rfl⟩ := isCall
    rw [execute_call] at result
    cases found : p.callee index with
    | error fault =>
      rw [found] at result
      cases result
    | ok h =>
      rw [found] at result
      cases result
      exact ⟨index, rfl, found⟩
  · have notCall (index : CalleeIndex) (name : Option String) (dst : Option Slot) (onFail : Label) :
        i ≠ .call index name dst onFail :=
      fun same => isCall ⟨index, name, dst, onFail, same⟩
    exact absurd result (execute_callFree env p i notCall before after callee name dst onFail)

/-- An instruction that leads to a call has looked its callee up. -/
theorem callee_of_execute {env : Environment} {p : Program} {i : Instruction}
    {before after : Local} {callee : Handle} {name : Option String} {dst : Option Slot}
    {onFail : Label}
    (result : execute env p i before = .ok (.call callee name dst onFail) after) :
    ∃ index, p.callee index = .ok callee := by
  obtain ⟨index, _, found⟩ := call_of_execute result
  exact ⟨index, found⟩

/-- A callee is one of the table of callees. -/
theorem entry_of_callee {p : Program} {index : CalleeIndex} {callee : Handle}
    (found : p.callee index = .ok callee) :
    ∃ child : RuleId, p.callees[index.index]? = some ⟨child, some callee⟩ := by
  unfold Program.callee at found
  cases there : p.callees[index.index]? with
  | none =>
    rw [there] at found
    cases found
  | some entry =>
    obtain ⟨child, _ | h⟩ := entry
    · rw [there] at found
      cases found
    · rw [there] at found
      cases found
      exact ⟨child, rfl⟩

/-- The matcher of a callee of a linked program. -/
theorem callee_link (p : Program) (handleOf : RuleId → Option Handle) (guard : RecursionCheck)
    (index : CalleeIndex) : { p.link handleOf with recursion := guard }.callee index =
      match (p.callees[index.index]?).bind fun callee => handleOf callee.rule with
      | some h => .ok h
      | none => .error (.unresolvedSubroutine p.rule) := by
  unfold Program.callee Program.link
  rw [Array.getElem?_map]
  cases p.callees[index.index]? <;> rfl

/-- A program linked in two ways with related matchers. -/
theorem twins_of_link {H : Handle → Handle → Prop} (env : Environment) (arena : Arena)
    {p : Program} {handleOf handleOf' : RuleId → Option Handle}
    (related : ∀ callee ∈ p.callees, ∃ h h', handleOf callee.rule = some h ∧
      handleOf' callee.rule = some h' ∧ H h h') (guard guard' : RecursionCheck) :
    Twins H env { env with arena } { p.link handleOf with recursion := guard }
      { p.link handleOf' with recursion := guard' } := by
  refine ⟨rfl, fun _ => rfl, fun _ => rfl, fun _ _ => rfl, fun i before => ?_⟩
  by_cases inside : ∃ index name dst onFail, i = .call index name dst onFail
  · obtain ⟨index, name, dst, onFail, rfl⟩ := inside
    rw [execute_call, execute_call, callee_link, callee_link]
    cases there : p.callees[index.index]? with
    | none => exact .error _ before
    | some callee =>
      obtain ⟨h, h', found, found', related⟩ := related callee (Array.mem_of_getElem? there)
      dsimp only [Option.bind_some]
      rw [found, found']
      exact .ok (.call related name dst onFail) before
  · have notCall (index : CalleeIndex) (name : Option String) (dst : Option Slot) (onFail : Label) :
        i ≠ .call index name dst onFail :=
      fun same => inside ⟨index, name, dst, onFail, same⟩
    have same : execute { env with arena } { p.link handleOf' with recursion := guard' } i =
        execute env { p.link handleOf with recursion := guard } i :=
      (execute_unlinked env arena p _ guard' i notCall).trans
        (execute_unlinked env env.arena p _ guard i notCall).symm
    have free := execute_callFree env { p.link handleOf with recursion := guard } i notCall before
    rw [same]
    cases result : execute env { p.link handleOf with recursion := guard } i before with
    | ok control after =>
      refine .ok (.same control fun callee name dst onFail call => ?_) after
      rw [call] at result
      exact free after callee name dst onFail result
    | error fault after => exact .error fault after

end Packrat.Machine
