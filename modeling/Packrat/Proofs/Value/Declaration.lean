import Mathlib.Logic.Relation
import Packrat.Proofs.Value.Implements

/-!
# Declarations

A record model comes about by declarations: record types, abstract types and bases, in any order. A
type may be declared anew, bases may be declared of types that are declared later or never, and they
may lead back to where they come from. All that counts for `implements` is which bases are declared.

* `Declaration`, `RecordModel.ofDeclarations`: what a model is told, and the model it makes.
* `RecordModel.Searches`: the search for a base, without a bound on its rounds.

Main statement: `implements_ofDeclarations`.
-/

namespace Packrat

/-- What a record model is told. -/
inductive Declaration where
  /-- Objects of a type have the given slots. -/
  | record (ty : String) (slots : List String)
  /-- A type has no objects. -/
  | abstractType (ty : String)
  /-- A type has a base. -/
  | base (ty base : String)
  deriving Repr, DecidableEq

/-- Whether a declaration is one of a base. -/
def Declaration.isBase : Declaration → Bool
  | .base _ _ => true
  | _ => false

namespace RecordModel

/-- The model that is told one thing more. -/
def told (m : RecordModel) : Declaration → RecordModel
  | .record ty slots => m.record ty slots
  | .abstractType ty => m.abstractType ty
  | .base ty base => m.withBase ty base

/-- The model that some declarations make, one after the other. -/
def ofDeclarations (declarations : List Declaration) : RecordModel :=
  declarations.foldl told empty

variable {m : RecordModel} {ty base : String}

/-! ## Declared bases -/

/-- A declaration in place of those of its name: its type has its bases, and the others have the
bases that they had. -/
theorem basesOf_replace (m : RecordModel) {decl : TypeDecl} (named : decl.name = ty)
    (other : String) :
    RecordModel.basesOf ⟨decl :: m.types.filter fun decl => decl.name != ty⟩ other =
      if ty = other then decl.bases else m.basesOf other := by
  subst named
  unfold basesOf find?
  by_cases same : decl.name = other
  · simp [same]
  · have passed : (fun found : TypeDecl => decide (found.name != decl.name ∧ found.name == other)) =
        fun found => found.name == other := by
      funext found
      by_cases here : found.name = other <;> simp [here, Ne.symm same]
    rw [List.find?_cons_of_neg (by simpa using same), List.find?_filter, passed, if_neg same]

/-- A type that is declared anew keeps its bases, as all others do. -/
theorem basesOf_declare (m : RecordModel) (ty : String) (slots : List String) (concrete : Bool)
    (other : String) : (m.declare ty slots concrete).basesOf other = m.basesOf other := by
  rw [declare, basesOf_replace m rfl]
  by_cases same : ty = other <;> simp [same]

/-- A declared base comes behind those that the type has. -/
theorem basesOf_withBase (m : RecordModel) (ty base other : String) :
    (m.withBase ty base).basesOf other =
      if ty = other then m.basesOf ty ++ [base] else m.basesOf other := by
  unfold withBase
  cases known : m.find? ty with
  | some decl =>
    have named : decl.name = ty := by simpa using List.find?_some known
    have had : m.basesOf ty = decl.bases := by rw [basesOf, known]
    rw [had]
    exact @basesOf_replace ty m { decl with bases := decl.bases ++ [base] } named other
  | none =>
    have had : m.basesOf ty = [] := by rw [basesOf, known]
    rw [had]
    unfold basesOf find?
    by_cases same : ty = other <;> simp [same]

/-- The bases of a type are those that it had and the one declared for it, if one is. -/
theorem mem_basesOf_told (m : RecordModel) (declaration : Declaration) :
    base ∈ (m.told declaration).basesOf ty ↔
      base ∈ m.basesOf ty ∨ .base ty base = declaration := by
  cases declaration with
  | record other slots => simp [told, record, basesOf_declare]
  | abstractType other => simp [told, abstractType, basesOf_declare]
  | base other added =>
    rw [told, basesOf_withBase]
    by_cases same : other = ty
    · subst same
      simp
    · simp [same, Ne.symm same]

/-- The bases of a type are those declared for it, whatever else is declared and when. -/
theorem mem_basesOf_ofDeclarations (declarations : List Declaration) :
    base ∈ (ofDeclarations declarations).basesOf ty ↔ .base ty base ∈ declarations := by
  suffices later : ∀ m : RecordModel, base ∈ (declarations.foldl told m).basesOf ty ↔
      base ∈ m.basesOf ty ∨ .base ty base ∈ declarations by
    have start : base ∉ empty.basesOf ty := List.not_mem_nil
    exact (later empty).trans (or_iff_right start)
  intro m
  induction declarations generalizing m with
  | nil => simp
  | cons declaration declarations ih =>
    rw [List.foldl_cons, ih, mem_basesOf_told, List.mem_cons, or_assoc]

/-- Declared bases lead from a type to another one just if there is a chain of declarations. -/
theorem leads_iff_chain (declarations : List Declaration) :
    (ofDeclarations declarations).Leads base ty ↔
      Relation.ReflTransGen (fun ty base => .base ty base ∈ declarations) ty base := by
  constructor
  · intro leads
    induction leads with
    | refl => exact .refl
    | head declared _ ih => exact .head ((mem_basesOf_ofDeclarations _).mp declared) ih
  · intro chain
    induction chain using Relation.ReflTransGen.head_induction_on with
    | refl => exact .refl
    | head declared _ ih => exact .head ((mem_basesOf_ofDeclarations _).mpr declared) ih

/-! ## The search -/

/-- The search for `base` among the types of `pending` and the bases they lead to comes to an answer
after finitely many rounds, whatever their number. -/
inductive Searches (m : RecordModel) (base : String) :
    (visited pending : List String) → Bool → Prop where
  /-- Nothing is left to look at. -/
  | missed {visited : List String} : Searches m base visited [] false
  /-- The next type is the one looked for. -/
  | found {visited pending : List String} : Searches m base visited (base :: pending) true
  /-- The next type is expanded already. -/
  | dropped {visited pending : List String} {current : String} {answer : Bool}
      (differs : current ≠ base) (expanded : current ∈ visited)
      (rest : Searches m base visited pending answer) :
      Searches m base visited (current :: pending) answer
  /-- The next type is replaced by its bases, the one declared last in front. -/
  | expanded {visited pending : List String} {current : String} {answer : Bool}
      (differs : current ≠ base) (new : current ∉ visited)
      (rest : Searches m base (current :: visited) ((m.basesOf current).reverse ++ pending)
        answer) :
      Searches m base visited (current :: pending) answer

/-- A bound does not cut the search short if it is beyond the types that are pending and the bases
that can still become so: each round takes one of them away. -/
theorem searches_search {fuel : Nat} {visited pending : List String}
    (enough : pending.length + m.unexpanded visited < fuel) :
    m.Searches base visited pending (m.search base fuel visited pending) := by
  induction fuel generalizing visited pending with
  | zero => omega
  | succ fuel ih =>
    cases pending with
    | nil => exact .missed
    | cons current pending =>
      rw [List.length_cons] at enough
      unfold search
      by_cases here : current = base
      · subst here
        simp only [if_true]
        exact .found
      · rw [if_neg here]
        by_cases old : visited.contains current = true
        · rw [if_pos old]
          apply Searches.dropped here (List.contains_iff_mem.mp old)
          exact ih (by omega)
        · rw [if_neg old]
          apply Searches.expanded here (fun member => old (List.contains_iff_mem.mpr member))
          have fewer := unexpanded_cons (m := m) (Bool.not_eq_true _ ▸ old)
          apply ih
          rw [List.length_append, List.length_reverse]
          omega

/-- The search of a type for a base comes to an end, with the answer that the model gives. -/
theorem searches_implements (m : RecordModel) (ty base : String) :
    m.Searches base [] [ty] (m.implements ty base) := by
  apply searches_search
  simp [unexpanded, baseCount]
  omega

/-! ## Implementing -/

/-- Whatever is declared, and in whatever order: the search of a type for a base ends; a type
implements another one just if a chain of declared bases leads there; so each type implements
itself, and what its bases implement; and declarations of types make no difference, wherever they
stand between those of bases. -/
theorem implements_ofDeclarations (declarations : List Declaration) (ty base : String) :
    (ofDeclarations declarations).Searches base [] [ty]
        ((ofDeclarations declarations).implements ty base) ∧
      ((ofDeclarations declarations).implements ty base = true ↔
        Relation.ReflTransGen (fun ty base => .base ty base ∈ declarations) ty base) ∧
      (ofDeclarations declarations).implements ty ty = true ∧
      (∀ mid, (ofDeclarations declarations).implements ty mid = true →
        (ofDeclarations declarations).implements mid base = true →
          (ofDeclarations declarations).implements ty base = true) ∧
      ∀ declarations' : List Declaration,
        declarations'.filter Declaration.isBase = declarations.filter Declaration.isBase →
          (ofDeclarations declarations').implements ty base =
            (ofDeclarations declarations).implements ty base := by
  refine ⟨searches_implements _ _ _, implements_iff.trans (leads_iff_chain _), implements_refl _ _,
    fun mid first second => implements_trans first second, fun declarations' same => ?_⟩
  have declared (ty base : String) :
      Declaration.base ty base ∈ declarations' ↔ Declaration.base ty base ∈ declarations := by
    have both := congrArg (Declaration.base ty base ∈ ·) same
    simpa [Declaration.isBase] using both
  rw [Bool.eq_iff_iff, implements_iff, implements_iff, leads_iff_chain, leads_iff_chain]
  simp only [declared]

/-- Bases that lead in a circle, one of them declared before its type and one of a type that is
declared by nothing else. -/
theorem implements_ofDeclarations_circle :
    (ofDeclarations [.base "A" "B", .record "A" ["x"], .base "B" "C", .base "C" "B"]).Searches "C"
        [] ["A"] true ∧
      Relation.ReflTransGen (fun ty base => Declaration.base ty base ∈
        [.base "A" "B", .record "A" ["x"], .base "B" "C", .base "C" "B"]) "A" "C" := by
  obtain ⟨ends, chain, _⟩ := implements_ofDeclarations
    [.base "A" "B", .record "A" ["x"], .base "B" "C", .base "C" "B"] "A" "C"
  have answer : (ofDeclarations [.base "A" "B", .record "A" ["x"], .base "B" "C",
      .base "C" "B"]).implements "A" "C" = true := by decide
  rw [answer] at ends
  exact ⟨ends, chain.mp answer⟩

end RecordModel

end Packrat
