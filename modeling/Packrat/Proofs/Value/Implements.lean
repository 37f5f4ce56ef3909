import Packrat.Value.ObjectModel

/-!
# Implemented types

A type implements another one if declared bases lead from it to the other one. The search for the
other type expands each type once; what it has expanded and what is still pending always hold the
bases of all that it has expanded, so nothing that can be reached is missed.

* `RecordModel.Leads`: declared bases lead from a type to another one.
* `RecordModel.unexpanded`: how many bases can still become pending.

Main statement: `implements_iff`.
-/

namespace Packrat.RecordModel

variable {m : RecordModel} {ty base : String} {fuel : Nat} {visited pending : List String}

/-- Declared bases lead from a type to another one. -/
inductive Leads (m : RecordModel) (base : String) : String → Prop where
  /-- No step is needed. -/
  | refl : Leads m base base
  /-- They lead there from a declared base. -/
  | head {ty mid : String} (declared : mid ∈ m.basesOf ty) (rest : Leads m base mid) :
    Leads m base ty

/-- Two ways along declared bases are one. -/
theorem Leads.trans {mid : String} (first : m.Leads mid ty) (second : m.Leads base mid) :
    m.Leads base ty := by
  induction first with
  | refl => exact second
  | head declared _ ih => exact .head declared ih

/-- How many bases are declared for types that are not expanded yet. -/
def unexpanded (m : RecordModel) (visited : List String) : Nat :=
  m.types.foldr
    (fun decl count => (if visited.contains decl.name then 0 else decl.bases.length) + count) 0

/-- The bases of one more expanded type are counted no more than before. -/
theorem unexpanded_le (m : RecordModel) (ty : String) (visited : List String) :
    m.unexpanded (ty :: visited) ≤ m.unexpanded visited := by
  obtain ⟨types⟩ := m
  induction types with
  | nil => exact Nat.le_refl _
  | cons decl rest ih =>
    unfold unexpanded at ih ⊢
    simp only [List.foldr_cons, List.contains_cons] at ih ⊢
    by_cases old : visited.contains decl.name = true
    · rw [old, Bool.or_true]
      omega
    · rw [if_neg old]
      split <;> omega

/-- The bases of a type that becomes expanded are not counted any more. -/
theorem unexpanded_cons (new : visited.contains ty = false) :
    (m.basesOf ty).length + m.unexpanded (ty :: visited) ≤ m.unexpanded visited := by
  obtain ⟨types⟩ := m
  induction types with
  | nil => exact Nat.le_refl _
  | cons decl rest ih =>
    have others := unexpanded_le ⟨rest⟩ ty visited
    unfold basesOf find? unexpanded at *
    simp only [List.foldr_cons, List.contains_cons, List.find?_cons] at ih others ⊢
    by_cases same : decl.name = ty
    · -- The declaration that counts is the first one of the name; others are not looked at.
      subst same
      simp only [beq_self_eq_true, Bool.true_or, if_true, new, Bool.false_eq_true, if_false]
      omega
    · rw [beq_eq_false_iff_ne.mpr same, Bool.false_or]
      dsimp only
      omega

/-- To what is found declared bases lead. -/
theorem leads_of_search (found : m.search base fuel visited pending = true) :
    ∃ ty ∈ pending, m.Leads base ty := by
  induction fuel generalizing visited pending with
  | zero => cases found
  | succ fuel ih =>
    cases pending with
    | nil => cases found
    | cons current pending =>
      unfold search at found
      split at found
      case isTrue here => exact ⟨current, List.mem_cons_self, here ▸ .refl⟩
      case isFalse =>
        split at found
        · obtain ⟨ty, member, leads⟩ := ih found
          exact ⟨ty, List.mem_cons_of_mem _ member, leads⟩
        · obtain ⟨ty, member, leads⟩ := ih found
          rcases List.mem_append.mp member with declared | later
          · exact ⟨current, List.mem_cons_self, .head (List.mem_reverse.mp declared) leads⟩
          · exact ⟨ty, List.mem_cons_of_mem _ later, leads⟩

/-- What the search goes by: the type looked for is not expanded, and the bases of what is
expanded are expanded or pending. -/
structure Searching (m : RecordModel) (base : String) (visited pending : List String) : Prop where
  missed : base ∉ visited
  bases : ∀ ty ∈ visited, ∀ other ∈ m.basesOf ty, other ∈ visited ∨ other ∈ pending

namespace Searching

variable {current : String}

/-- The way from an expanded type goes through a pending one. -/
theorem leads_pending (searching : m.Searching base visited pending) (expanded : ty ∈ visited)
    (leads : m.Leads base ty) : ∃ other ∈ pending, m.Leads base other := by
  induction leads with
  | refl => exact absurd expanded searching.missed
  | head declared leads ih =>
    rcases searching.bases _ expanded _ declared with inside | waits
    · exact ih inside
    · exact ⟨_, waits, leads⟩

/-- A pending type that is expanded already may be dropped. -/
theorem drop (searching : m.Searching base visited (current :: pending))
    (expanded : current ∈ visited) : m.Searching base visited pending := by
  refine ⟨searching.missed, fun ty inside other declared => ?_⟩
  rcases searching.bases ty inside other declared with inside | waits
  · exact .inl inside
  · rcases List.mem_cons.mp waits with rfl | waits
    · exact .inl expanded
    · exact .inr waits

/-- A pending type that is not the one looked for may be expanded. -/
theorem expand (searching : m.Searching base visited (current :: pending))
    (differs : current ≠ base) :
    m.Searching base (current :: visited) ((m.basesOf current).reverse ++ pending) := by
  refine ⟨?_, fun ty inside other declared => ?_⟩
  · rw [List.mem_cons]
    rintro (rfl | inside)
    · exact differs rfl
    · exact searching.missed inside
  · rcases List.mem_cons.mp inside with rfl | inside
    · exact .inr (List.mem_append_left _ (List.mem_reverse.mpr declared))
    · rcases searching.bases ty inside other declared with inside | waits
      · exact .inl (List.mem_cons_of_mem _ inside)
      · rcases List.mem_cons.mp waits with rfl | waits
        · exact .inl List.mem_cons_self
        · exact .inr (List.mem_append_right _ waits)

end Searching

/-- What declared bases lead to from a pending type is found, with enough fuel. -/
theorem search_of_leads (searching : m.Searching base visited pending)
    (enough : pending.length + m.unexpanded visited < fuel)
    (leads : ∃ ty ∈ pending, m.Leads base ty) : m.search base fuel visited pending = true := by
  induction fuel generalizing visited pending with
  | zero => omega
  | succ fuel ih =>
    obtain ⟨ty, member, leads⟩ := leads
    cases pending with
    | nil => cases member
    | cons current pending =>
      rw [List.length_cons] at enough
      unfold search
      split
      case isTrue => rfl
      case isFalse differs =>
        by_cases old : visited.contains current = true
        · rw [if_pos old]
          have expanded : current ∈ visited := List.contains_iff_mem.mp old
          have still := searching.drop expanded
          apply ih still
          · omega
          · rcases List.mem_cons.mp member with rfl | waits
            · exact still.leads_pending expanded leads
            · exact ⟨ty, waits, leads⟩
        · rw [if_neg old]
          have still := searching.expand differs
          apply ih still
          · have fewer := unexpanded_cons (m := m) (Bool.not_eq_true _ ▸ old)
            rw [List.length_append, List.length_reverse]
            omega
          · rcases List.mem_cons.mp member with rfl | waits
            · exact still.leads_pending List.mem_cons_self leads
            · exact ⟨ty, List.mem_append_right _ waits, leads⟩

/-- A type implements another one if and only if declared bases lead from it to the other one. -/
theorem implements_iff : m.implements ty base = true ↔ m.Leads base ty := by
  constructor
  · intro found
    obtain ⟨_, member, leads⟩ := leads_of_search found
    rwa [List.mem_singleton.mp member] at leads
  · intro leads
    have start : m.Searching base [] [ty] := ⟨List.not_mem_nil, fun _ inside => nomatch inside⟩
    refine search_of_leads start ?_ ⟨ty, List.mem_singleton.mpr rfl, leads⟩
    have all : m.unexpanded [] = m.baseCount := by
      simp [unexpanded, baseCount]
    rw [all, List.length_singleton]
    omega

/-- Every type implements itself. -/
theorem implements_refl (m : RecordModel) (ty : String) : m.implements ty ty = true :=
  implements_iff.mpr .refl

/-- What implements a type implements what the type implements. -/
theorem implements_trans {mid : String} (first : m.implements ty mid = true)
    (second : m.implements mid base = true) : m.implements ty base = true :=
  implements_iff.mpr ((implements_iff.mp first).trans (implements_iff.mp second))

end Packrat.RecordModel
