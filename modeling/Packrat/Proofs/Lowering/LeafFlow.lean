import Packrat.Proofs.Lowering.Flow
import Packrat.Proofs.Lowering.Leaf

/-!
# The flow of the programs of leaves

The code of a rule without children is in order, whatever the text and the registers: it goes on to
the places it names, and where it fails it is back where it began. Its result is in the bank of its
output type.

* `InOrder`: what is to be shown of the code of a rule.
* `Passes`: tests of a character that are in order if what follows them is.

Main statement: `leaf_inOrder`.
-/

namespace Packrat.Lowering

open Assemble Machine Inference

/-- The code of a rule from a stage on is in order where the rule is entered, and its result is in a
register of its output type. -/
structure InOrder (p : Program) (output : OutputType) (a : Assembler) (slot : Option Slot) :
    Prop where
  flows : ∀ n, p.Flows n a.code.size .atHome
  result : ResultSlot p output slot

variable {p : Program} {cx : Context} {a b : Assembler} {n : Nat} {N : Needs} {u : Unit}
  {slot : Option Slot}

/-- A rule that keeps the position where it begins, and needs nothing but the way back. -/
theorem flows_start {start : IntSlot} (h : savePos a = (start, b)) (placed : Placed p b)
    (rest : p.Flows n b.code.size (.wayBack start)) : p.Flows n a.code.size .atHome :=
  flows_savePos_home h placed rfl (rest.mono fun _ met => met.away)

/-- What needs nothing is in order whatever is known. -/
theorem nothing_met (k : Known) : Needs.nothing.Met k := ⟨nofun, nofun, nofun⟩

/-! ## Literals -/

/-- The code for the characters of a literal is in order if the code behind it and at the label for
failures is. -/
theorem flows_literalChars {c : IntSlot} {fail : Label} {chars : List Char}
    (h : literalChars c fail chars a = (u, b)) (placed : Placed p b)
    (inside : c.index < p.intSlots) (leap : p.Target n fail N.away)
    (rest : p.Flows n b.code.size N.away) : p.Flows n a.code.size N.away := by
  induction chars generalizing a u with
  | nil =>
    cases h
    exact rest
  | cons d chars ih =>
    unfold literalChars at h
    obtain ⟨_, a₁, peek, h₁, placed₁⟩ := assemble_split h placed
    obtain ⟨_, a₂, test, h₂, placed₂⟩ := assemble_split h₁ placed
    obtain ⟨_, a₃, forward, h₃, placed₃⟩ := assemble_split h₂ placed
    exact flows_peekChar peek placed₁ inside (flows_jumpIf test placed₂ inside leap
      (flows_advance forward placed₃ (ih h₃)))

/-- The code of a literal is in order. -/
theorem exactLiteral_inOrder {text : String} (h : exactLiteral text a = (slot, b))
    (placed : Placed p b) (laid : p.Laid b.code.size) : InOrder p .text a slot := by
  unfold exactLiteral at h
  obtain ⟨start, a₁, saved, h₁, placed₁⟩ := assemble_split h placed
  obtain ⟨fail, a₂, labelled, h₂, placed₂⟩ := assemble_split h₁ placed
  obtain ⟨c, a₃, fresh, h₃, placed₃⟩ := assemble_split h₂ placed
  obtain ⟨_, a₄, tested, h₄, placed₄⟩ := assemble_split h₃ placed
  obtain ⟨out, a₅, made, h₅, placed₅⟩ := assemble_split h₄ placed
  obtain ⟨_, a₆, loaded, h₆, placed₆⟩ := assemble_split h₅ placed
  obtain ⟨_, a₇, returned, h₇, placed₇⟩ := assemble_split h₆ placed
  obtain ⟨_, a₈, tail, h₈, placed₈⟩ := assemble_split h₇ placed
  cases h₈
  have start_fresh := savePos_fresh saved placed₁
  obtain ⟨c_fresh, size₃⟩ := intSlot_fresh fresh placed₃
  obtain ⟨out_fresh, size₅⟩ := objSlot_fresh made placed₅
  refine ⟨fun n => ?_, .obj ⟨rfl, rfl⟩ out_fresh.inside⟩
  obtain ⟨atFail, fails⟩ := flows_failBack (n := n) tail placed laid start_fresh.inside
  refine flows_start saved placed₁ (flows_still (newLabel_still labelled) ?_)
  rw [← size₃]
  refine flows_literalChars (N := .wayBack start) tested placed₄ c_fresh.inside fails ?_
  rw [← size₅]
  exact flows_loadValue loaded placed₆ out_fresh.inside (Needs.spares_of_none rfl _)
    (flows_succeed returned placed₇ atFail.laid)

section

variable {text : String} {start : IntSlot} {fail : Label} {got : ObjSlot}

/-- The code that takes as many characters as a text has is in order if the code behind it is. -/
theorem flows_taking (code : TakingCode p text start fail got a b)
    (fails : p.Target n fail (.wayBack start)) (rest : p.Flows n b.code.size (.wayBack start)) :
    p.Flows n a.code.size .atHome := by
  obtain ⟨saved, placed₁, labelled, made, placed₃, counted, placed₄, made', placed₅, taken,
    placed⟩ := code
  obtain ⟨count_fresh, size₃⟩ := intSlot_fresh made placed₃
  obtain ⟨got_fresh, size₅⟩ := objSlot_fresh made' placed₅
  refine flows_start saved placed₁ (flows_still labelled ?_)
  rw [← size₃]
  refine flows_loadImm counted placed₄ count_fresh.inside ?_
  rw [← size₅]
  exact flows_invoke taken placed (by simpa [SlotInside] using count_fresh.inside)
    got_fresh.inside trivial (Needs.spares_of_none rfl _) fails rest

/-- The code that compares them with the text is in order. -/
theorem flows_comparison (code : ComparisonCode p text start fail got a b)
    (start_inside : start.index < p.intSlots) (inside : got.index < p.objSlots)
    (laid : p.Laid b.code.size) :
    p.Flows n a.code.size (.wayBack start) ∧ p.Target n fail (.wayBack start) := by
  obtain ⟨made, placed₁, lowered, placed₂, made', placed₃, loaded, placed₄, compared, placed₅, tail,
    placed₆, marked, placed₇, returned, placed⟩ := code
  obtain ⟨folded_fresh, size₁⟩ := objSlot_fresh made placed₁
  obtain ⟨want_fresh, size₃⟩ := objSlot_fresh made' placed₃
  obtain ⟨atOk, succeeds⟩ := flows_mark (n := n) (N := .wayBack start) marked placed₇
    (flows_succeed returned placed laid)
  obtain ⟨atFail, fails⟩ := flows_failBack tail placed₆ atOk.laid start_inside
  refine ⟨?_, fails⟩
  rw [← size₁]
  refine flows_invoke lowered placed₂ (by simpa [SlotInside] using inside) folded_fresh.inside
    trivial (Needs.spares_of_none rfl _) fails ?_
  rw [← size₃]
  exact flows_loadValue loaded placed₄ want_fresh.inside (Needs.spares_of_none rfl _)
    (flows_jumpIfObjEq compared placed₅ folded_fresh.inside want_fresh.inside succeeds atFail)

end

/-- The code of a literal in any case is in order. -/
theorem foldedLiteral_inOrder {text : String} (h : foldedLiteral text a = (slot, b))
    (placed : Placed p b) (laid : p.Laid b.code.size) : InOrder p .text a slot := by
  obtain ⟨start, fail, got, c, rfl, taking, comparison⟩ := foldedLiteral_code h placed
  obtain ⟨start_inside, _, inside⟩ := taking.slots
  refine ⟨fun n => ?_, .obj ⟨rfl, rfl⟩ inside⟩
  obtain ⟨rest, fails⟩ := flows_comparison comparison start_inside inside laid
  exact flows_taking taking fails rest

/-! ## Character classes -/

/-- Tests of a character are in order if the code behind them and at the label for members is. -/
def Passes (p : Program) (tests : IntSlot → Label → Assemble Unit) : Prop :=
  ∀ (a b : Assembler) (u : Unit) (c : IntSlot) (hit : Label), tests c hit a = (u, b) →
    Placed p b → c.index < p.intSlots → ∀ (n : Nat) (N : Needs), p.Target n hit N →
      p.Flows n b.code.size N → p.Flows n a.code.size N

/-- Tests for ranges are in order if the code on both sides is. -/
theorem testRanges_passes (p : Program) (ranges : List (Char × Char)) :
    Passes p (fun c hit => testRanges c hit ranges) := by
  intro a b u c hit h placed inside n N leap rest
  induction ranges generalizing a u with
  | nil =>
    cases h
    exact rest
  | cons range ranges ih =>
    obtain ⟨lo, hi⟩ := range
    change testRanges c hit ((lo, hi) :: ranges) a = (u, b) at h
    unfold testRanges at h
    obtain ⟨next, a₁, labelled, h₁, placed₁⟩ := assemble_split h placed
    obtain ⟨_, a₂, below, h₂, placed₂⟩ := assemble_split h₁ placed
    obtain ⟨_, a₃, above, h₃, placed₃⟩ := assemble_split h₂ placed
    obtain ⟨_, a₄, marked, h₄, placed₄⟩ := assemble_split h₃ placed
    obtain ⟨atNext, skips⟩ := flows_mark marked placed₄ (ih _ _ h₄)
    exact flows_still (newLabel_still labelled) (flows_jumpIf below placed₂ inside skips
      (flows_jumpIf above placed₃ inside leap atNext))

/-- Tests for characters are in order if the code on both sides is. -/
theorem testChars_passes (p : Program) (chars : List Char) :
    Passes p (fun c hit => testChars c hit chars) := by
  intro a b u c hit h placed inside n N leap rest
  induction chars generalizing a u with
  | nil =>
    cases h
    exact rest
  | cons d chars ih =>
    change testChars c hit (d :: chars) a = (u, b) at h
    unfold testChars at h
    obtain ⟨_, a₁, test, h₁, placed₁⟩ := assemble_split h placed
    exact flows_jumpIf test placed₁ inside leap (ih _ _ h₁)

/-- Nothing is consumed before a character of the class is. -/
theorem flows_takeMember {negated : Bool} {fail hit : Label}
    (h : takeMember negated fail hit a = (u, b)) (placed : Placed p b)
    (rest : p.Flows n b.code.size .atHome) (leap : p.Target n fail .atHome) :
    p.Flows n a.code.size .atHome ∧ p.Target n hit .atHome := by
  unfold takeMember at h
  cases negated with
  | true =>
    obtain ⟨_, a₁, forward, h₁, placed₁⟩ := assemble_split h placed
    obtain ⟨_, a₂, returned, marked, placed₂⟩ := assemble_split h₁ placed
    obtain ⟨atHit, hits⟩ := flows_mark marked placed rest
    exact ⟨flows_advance forward placed₁ (flows_succeed returned placed₂ atHit.laid), hits⟩
  | false =>
    obtain ⟨_, a₁, jumped, h₁, placed₁⟩ := assemble_split h placed
    obtain ⟨_, a₂, marked, h₂, placed₂⟩ := assemble_split h₁ placed
    obtain ⟨_, a₃, forward, returned, placed₃⟩ := assemble_split h₂ placed
    obtain ⟨atHit, hits⟩ := flows_mark marked placed₂ (flows_advance forward placed₃
      (flows_succeed returned placed rest.laid))
    exact ⟨(flows_jump jumped placed₁ atHit.laid leap).weaken, hits⟩

/-- The code of a class of characters is in order if its tests are. -/
theorem charClass_inOrder {negated : Bool} {tests : IntSlot → Label → Assemble Unit}
    [∀ c hit, Grows (tests c hit)] (passes : Passes p tests)
    (h : charClass negated tests a = (slot, b)) (placed : Placed p b)
    (laid : p.Laid b.code.size) : InOrder p .char a slot := by
  unfold charClass at h
  obtain ⟨fail, a₁, labelled, h₁, placed₁⟩ := assemble_split h placed
  obtain ⟨hit, a₂, labelled', h₂, placed₂⟩ := assemble_split h₁ placed
  obtain ⟨c, a₃, fresh, h₃, placed₃⟩ := assemble_split h₂ placed
  obtain ⟨_, a₄, peek, h₄, placed₄⟩ := assemble_split h₃ placed
  obtain ⟨_, a₅, ends, h₅, placed₅⟩ := assemble_split h₄ placed
  obtain ⟨_, a₆, tested, h₆, placed₆⟩ := assemble_split h₅ placed
  obtain ⟨_, a₇, taken, h₇, placed₇⟩ := assemble_split h₆ placed
  obtain ⟨_, a₈, tail, h₈, placed₈⟩ := assemble_split h₇ placed
  cases h₈
  obtain ⟨c_fresh, size₃⟩ := intSlot_fresh fresh placed₃
  refine ⟨fun n => ?_, .int rfl c_fresh.inside⟩
  obtain ⟨atFail, fails⟩ := flows_failHome (n := n) (N := .atHome) tail placed laid rfl
  obtain ⟨atEnd, hits⟩ := flows_takeMember taken placed₇ atFail fails
  refine flows_still (newLabel_still labelled) (flows_still (newLabel_still labelled') ?_)
  rw [← size₃]
  exact flows_peekChar peek placed₄ c_fresh.inside (flows_jumpIf ends placed₅ c_fresh.inside fails
    (passes _ _ _ c hit tested placed₆ c_fresh.inside n _ hits atEnd))

/-! ## Operations on the text -/

/-- An operation that does not succeed has not moved. -/
theorem native_inOrder {op : Native} (h : native cx op a = (slot, b)) (placed : Placed p b)
    (laid : p.Laid b.code.size)
    (tables : ∀ args dst label, (Instruction.invoke op args dst label).Resolves p) :
    InOrder p cx.output a slot := by
  unfold native at h
  obtain ⟨fail, a₁, labelled, h₁, placed₁⟩ := assemble_split h placed
  obtain ⟨out, a₂, made, h₂, placed₂⟩ := assemble_split h₁ placed
  obtain ⟨_, a₃, invoked, h₃, placed₃⟩ := assemble_split h₂ placed
  obtain ⟨_, a₄, returned, h₄, placed₄⟩ := assemble_split h₃ placed
  obtain ⟨_, a₅, tail, h₅, placed₅⟩ := assemble_split h₄ placed
  cases h₅
  obtain ⟨fresh, size₂⟩ := slotFor_fresh made placed₂
  refine ⟨fun n => ?_, fresh.result⟩
  obtain ⟨atFail, fails⟩ := flows_failHome (n := n) (N := .atHome) tail placed laid rfl
  refine flows_still (newLabel_still labelled) ?_
  rw [← size₂]
  exact flows_invoke invoked placed₃ nofun fresh.result.inside (tables _ _ _)
    (Needs.spares_of_none rfl _) fails (flows_succeed returned placed₄ atFail.laid)

/-- The code of a regular expression is in order. -/
theorem regex_inOrder [RegexEngine] {pattern : String} (emits : Emits (regex cx pattern) a slot b)
    (placed : Placed p b) (laid : p.Laid b.code.size) : InOrder p cx.output a slot := by
  unfold regex at emits
  split at emits
  · exact emits.not_thrown.elim
  case h_2 r _ =>
    obtain ⟨index, c, numbered, emits, placed'⟩ := emits.step placed
    obtain ⟨entry, still⟩ := regexConst_found numbered placed'
    have inOrder := native_inOrder emits.assembled placed laid fun _ _ _ =>
      ⟨r, by rw [Program.regexConst, entry]⟩
    exact ⟨fun n => flows_still still (inOrder.flows n), inOrder.result⟩

/-! ## Layout and places -/

/-- Each round goes back to the top. -/
theorem whitespace_inOrder (h : whitespace a = (slot, b)) (placed : Placed p b)
    (laid : p.Laid b.code.size) : InOrder p .void a slot := by
  obtain ⟨c, top, skip, d, rfl, size, inside, code⟩ := whitespace_code h placed
  obtain ⟨begins, placed₁, peek, placed₂, tested, placed₃, returned, placed₄, marked, placed₅,
    forward, placed₆, again, placed⟩ := code
  obtain ⟨topPlace, begun⟩ := mark_placed begins placed₁
  have there : d.code.size < p.code.size :=
    begun.code ▸ (Array.getElem?_eq_some_iff.mp (emit_found peek placed₂).1).1
  refine ⟨fun n => ?_, .void rfl⟩
  rw [← size]
  refine (Program.flows_loop (N := .nothing) topPlace there (fun n round => ?_) n).mono
    fun k _ => nothing_met k
  obtain ⟨atSkip, skips⟩ := flows_mark (N := .nothing) marked placed₅
    (flows_advance forward placed₆ (flows_jump again placed laid round))
  exact flows_still begun (flows_peekChar peek placed₂ inside
    (testChars_passes p _ _ _ _ c skip tested placed₃ inside _ _ skips
      (flows_succeed returned placed₄ atSkip.laid)))

/-- The code of a line end behind the test for a carriage return is in order. -/
theorem flows_return {c : IntSlot} {cr ok : Label} (code : ReturnCode p c cr ok a b)
    (inside : c.index < p.intSlots) (laid : p.Laid b.code.size) :
    p.Flows n a.code.size .nothing ∧ p.Target n cr .nothing ∧ p.Target n ok .nothing := by
  obtain ⟨marked, placed₁, forward, placed₂, peek, placed₃, tested, placed₄, forward', placed₅,
    accepts, placed₆, returned, placed⟩ := code
  obtain ⟨atOk, succeeds⟩ := flows_mark (N := .nothing) accepts placed₆
    (flows_succeed returned placed laid)
  obtain ⟨atReturn, returns⟩ := flows_mark (N := .nothing) marked placed₁
    (flows_advance forward placed₂ (flows_peekChar peek placed₃ inside
      (flows_jumpIf tested placed₄ inside succeeds (flows_advance forward' placed₅ atOk))))
  exact ⟨atReturn, returns, succeeds⟩

/-- The only failure is in front of a character that ends no line. -/
theorem eol_inOrder (h : eol a = (slot, b)) (placed : Placed p b) (laid : p.Laid b.code.size) :
    InOrder p .void a slot := by
  obtain ⟨c, d, rfl, size, inside, code⟩ := eol_code h placed
  obtain ⟨peek, placed₁, atEnd, placed₂, atFeed, placed₃, atReturn, placed₄, refused, placed₅,
    marked, placed₆, forward, placed₇, returned, placed₈, rest⟩ := code
  refine ⟨fun n => ?_, .void rfl⟩
  have less : ∀ k, Needs.atHome.Met k → Needs.nothing.Met k := fun k _ => nothing_met k
  obtain ⟨behind, returns, succeeds⟩ := flows_return (n := n) rest inside laid
  obtain ⟨atLf, feeds⟩ := flows_mark (N := .nothing) marked placed₆
    (flows_advance forward placed₇ (flows_succeed returned placed₈ behind.laid))
  rw [← size]
  exact flows_peekChar peek placed₁ inside (flows_jumpIf atEnd placed₂ inside (succeeds.mono less)
    (flows_jumpIf atFeed placed₃ inside (feeds.mono less) (flows_jumpIf atReturn placed₄ inside
      (returns.mono less) (flows_fail refused placed₅ atLf.laid rfl))))

/-- The code for the end of the text is in order. -/
theorem eoi_inOrder (h : eoi a = (slot, b)) (placed : Placed p b) (laid : p.Laid b.code.size) :
    InOrder p .void a slot := by
  unfold eoi at h
  obtain ⟨fail, a₁, labelled, h₁, placed₁⟩ := assemble_split h placed
  obtain ⟨c, a₂, fresh, h₂, placed₂⟩ := assemble_split h₁ placed
  obtain ⟨_, a₃, peek, h₃, placed₃⟩ := assemble_split h₂ placed
  obtain ⟨_, a₄, test, h₄, placed₄⟩ := assemble_split h₃ placed
  obtain ⟨_, a₅, returned, h₅, placed₅⟩ := assemble_split h₄ placed
  obtain ⟨_, a₆, tail, h₆, placed₆⟩ := assemble_split h₅ placed
  cases h₆
  obtain ⟨c_fresh, size₂⟩ := intSlot_fresh fresh placed₂
  refine ⟨fun n => ?_, .void rfl⟩
  obtain ⟨atFail, fails⟩ := flows_failHome (n := n) (N := .atHome) tail placed laid rfl
  refine flows_still (newLabel_still labelled) ?_
  rw [← size₂]
  exact flows_peekChar peek placed₃ c_fresh.inside (flows_jumpIf test placed₄ c_fresh.inside fails
    (flows_succeed returned placed₅ atFail.laid))

/-- The code for the position is in order. -/
theorem location_inOrder (h : location a = (slot, b)) (placed : Placed p b)
    (laid : p.Laid b.code.size) : InOrder p .int a slot := by
  unfold location at h
  obtain ⟨here, a₁, saved, h₁, placed₁⟩ := assemble_split h placed
  obtain ⟨_, a₂, returned, h₂, placed₂⟩ := assemble_split h₁ placed
  cases h₂
  refine ⟨fun n => ?_, .int rfl (savePos_fresh saved placed₁).inside⟩
  exact flows_start saved placed₁ (flows_succeed returned placed laid)

/-! ## Leaves -/

/-- The code of a rule without children is in order. -/
theorem leaf_inOrder [RegexEngine] {rule : Rule} (leaf : IsLeaf rule)
    (emits : Emits (body cx rule) a slot b) (placed : Placed p b) (laid : p.Laid b.code.size)
    (fixed : FixedType rule cx.output) :
    InOrder p cx.output a slot := by
  cases rule with
  | literal text ignoreCase =>
    rw [fixed .text fun _ => rfl]
    simp only [body, literal] at emits
    split at emits
    · exact emits.not_thrown.elim
    · split at emits
      · exact foldedLiteral_inOrder emits.assembled placed laid
      · exact exactLiteral_inOrder emits.assembled placed laid
  | charRange ranges negated =>
    rw [fixed .char fun _ => rfl]
    simp only [body, charRange] at emits
    split at emits
    · exact emits.not_thrown.elim
    · split at emits
      · exact emits.not_thrown.elim
      · exact charClass_inOrder (testRanges_passes p ranges) emits.assembled placed laid
  | charSet chars negated =>
    rw [fixed .char fun _ => rfl]
    simp only [body, charSet] at emits
    split at emits
    · exact emits.not_thrown.elim
    · exact charClass_inOrder (testChars_passes p chars) emits.assembled placed laid
  | regex pattern => exact regex_inOrder emits placed laid
  | number kind => exact native_inOrder emits.assembled placed laid fun _ _ _ => trivial
  | whitespace =>
    rw [fixed .void fun _ => rfl]
    exact whitespace_inOrder emits.assembled placed laid
  | eol =>
    rw [fixed .void fun _ => rfl]
    exact eol_inOrder emits.assembled placed laid
  | eoi =>
    rw [fixed .void fun _ => rfl]
    exact eoi_inOrder emits.assembled placed laid
  | userObject => exact native_inOrder emits.assembled placed laid fun _ _ _ => trivial
  | location =>
    rw [fixed .int fun _ => rfl]
    exact location_inOrder emits.assembled placed laid
  | sequence | alternative | repetition | optional | lookAhead | not | surround | capture =>
    exact leaf.elim

end Packrat.Lowering
