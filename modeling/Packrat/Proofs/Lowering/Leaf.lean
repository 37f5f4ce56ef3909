import Packrat.Lowering.Rule
import Packrat.Proofs.Grammar.Inference
import Packrat.Proofs.Lowering.Stage
import Packrat.Proofs.Text.Reading

/-!
# Programs of leaves

A run of the program of a rule without children comes out as the rule says. Tests of characters
are followed one by one; loops over the text by induction on what follows.

Main statement: `leaf_concludes`.
-/

namespace Packrat.Lowering

open Assemble Machine Meaning
open Text (Within following)
open Registers (SameBut)
open Inference (FixedType)

variable {s : Scene} {Q : Goal} {cx : Context} {a b : Assembler} {regs : Registers} {pos : Nat}
  {u : Unit} {slot : Option Slot} {book : Book}

/-! ## Characters in registers -/

/-- Characters with one code point are the same. -/
theorem charCode_inj {c d : Char} : charCode c = charCode d ↔ c = d := by
  rw [charCode, charCode, Int.ofNat_inj, Char.toNat_inj]

/-- A register that looked at the next character holds its code point. -/
theorem peeked_cons {text : String} {c : Char} {rest : List Char}
    (here : following text pos = c :: rest) : peeked text pos = charCode c := by
  rw [peeked, Text.charAt?_eq_head?, here]
  rfl

/-- At the end of the text it holds no code point. -/
theorem peeked_nil {text : String} (here : following text pos = []) : peeked text pos = -1 := by
  rw [peeked, Text.charAt?_eq_head?, here]
  rfl

/-! ## Literals -/

/-- The characters of a literal are consumed if they follow; otherwise the run goes to the label,
having consumed some of them. -/
theorem concludes_literalChars {c : IntSlot} {fail : Label} {pc : Nat} {chars : List Char}
    (h : literalChars c fail chars a = (u, b)) (placed : Placed s.program b)
    (inside : c.index < s.program.intSlots)
    (place : s.program.labels[fail.index]? = some (some pc))
    (hit : ∀ regs', SameBut c regs regs' → chars.isPrefixOf (following s.env.text pos) = true →
      s.Concludes Q b.code.size regs' (pos + Text.width chars))
    (miss : ∀ regs' pos', SameBut c regs regs' →
      chars.isPrefixOf (following s.env.text pos) = false → s.Concludes Q pc regs' pos') :
    s.Concludes Q a.code.size regs pos := by
  induction chars generalizing a regs pos u with
  | nil =>
    cases h
    exact hit regs .refl rfl
  | cons d chars ih =>
    unfold literalChars at h
    obtain ⟨_, a₁, peek, h₁, placed₁⟩ := assemble_split h placed
    obtain ⟨_, a₂, test, h₂, placed₂⟩ := assemble_split h₁ placed
    obtain ⟨_, a₃, forward, h₃, placed₃⟩ := assemble_split h₂ placed
    refine .intro fun fits _ => concludes_peekChar peek placed₁ inside ?_
    have held := Registers.int_setInt fits inside (peeked s.env.text pos)
    have same : SameBut c regs (regs.setInt c (peeked s.env.text pos)) := SameBut.refl.setInt _
    refine concludes_jumpIf test placed₂ inside place (fun taken => ?_) (fun passed => ?_)
    · refine miss _ pos same ?_
      rw [held] at taken
      cases here : following s.env.text pos with
      | nil => rfl
      | cons e rest =>
        have differs : charCode e ≠ charCode d := by
          simpa [Cond.holds, peeked_cons here] using taken
        have other : (d == e) = false := by
          rw [beq_eq_false_iff_ne]
          rintro rfl
          exact differs rfl
        rw [List.isPrefixOf, other, Bool.false_and]
    · rw [held] at passed
      cases here : following s.env.text pos with
      | nil =>
        rw [peeked_nil here] at passed
        simp [Cond.holds, charCode] at passed
      | cons e rest =>
        have equal : charCode e = charCode d := by
          simpa [Cond.holds, peeked_cons here] using passed
        obtain rfl := charCode_inj.mp equal
        have next := Text.following_next here
        have prefixed : (e :: chars).isPrefixOf (following s.env.text pos) =
            chars.isPrefixOf (following s.env.text (pos + e.utf8Size)) := by
          rw [here, next, List.isPrefixOf, beq_self_eq_true, Bool.true_and]
        refine concludes_advance forward placed₃ here (ih h₃ ?_ ?_)
        · intro regs' same' follows
          rw [Nat.add_assoc]
          exact hit regs' (same.trans same') (prefixed ▸ follows)
        · intro regs' pos' same' follows
          exact miss regs' pos' (same.trans same') (prefixed ▸ follows)

/-- The code of a literal comes out as the rule does. -/
theorem exactLiteral_concludes [RegexEngine] (sound : s.Sound) {text : String}
    (h : exactLiteral text a = (slot, b)) (placed : Placed s.program b)
    (result : s.program.result = slot) (output : s.program.output = .text) :
    s.Concludes (.still (fun out => leaf? s.env s.start (.literal text false) = some out) book)
      a.code.size regs s.start := by
  unfold exactLiteral at h
  obtain ⟨start, a₁, saved, h₁, placed₁⟩ := assemble_split h placed
  obtain ⟨fail, a₂, labelled, h₂, placed₂⟩ := assemble_split h₁ placed
  obtain ⟨c, a₃, fresh, h₃, placed₃⟩ := assemble_split h₂ placed
  obtain ⟨_, a₄, tested, h₄, placed₄⟩ := assemble_split h₃ placed
  obtain ⟨out, a₅, made, h₅, placed₅⟩ := assemble_split h₄ placed
  obtain ⟨_, a₆, loaded, h₆, placed₆⟩ := assemble_split h₅ placed
  obtain ⟨_, a₇, returned, h₇, placed₇⟩ := assemble_split h₆ placed
  obtain ⟨_, a₈, tail, h₈, placed₈⟩ := assemble_split h₇ placed
  cases h₈
  have start_fresh := savePos_fresh saved placed₁
  have still := newLabel_still labelled
  obtain ⟨c_fresh, size₃⟩ := intSlot_fresh fresh placed₃
  obtain ⟨out_fresh, size₅⟩ := objSlot_fresh made placed₅
  obtain ⟨place, failed⟩ := concludes_failTail tail placed
  have apart : start.index ≠ c.index := by
    rw [start_fresh.index, c_fresh.index, still.intSlots, start_fresh.intSlots]
    omega
  refine .intro fun fits _ => concludes_savePos sound saved placed₁ (concludes_still still ?_)
  rw [← size₃]
  have kept := Registers.int_setInt fits start_fresh.inside s.start
  refine concludes_literalChars tested placed₄ c_fresh.inside place ?_ ?_
  · intro regs' same follows
    rw [← size₅]
    refine .intro fun fits' _ => concludes_loadText loaded placed₆ out_fresh.inside ?_
    have held := Registers.obj_setObj fits' out_fresh.inside (.str text)
    refine concludes_succeed_obj returned placed₇ result out_fresh.inside (output ▸ ⟨rfl, rfl⟩)
      held ?_
    simp [leaf?, follows]
  · intro regs' pos' same differs
    refine failed _ regs' pos' ?_ (by simp [leaf?, differs])
    rintro _ ⟨⟩
    exact ⟨start_fresh.inside, (same.int start apart).trans kept⟩

/-- The code of a text in any case that takes as many characters as the text has. -/
inductive TakingCode (p : Program) (text : String) (start : IntSlot) (fail : Label)
    (got : ObjSlot) (a b : Assembler) : Prop where
  | intro {a₁ a₂ a₃ a₄ a₅ : Assembler} {count : IntSlot}
      (saved : savePos a = (start, a₁)) (placed₁ : Placed p a₁) (labelled : a₁.Still a₂)
      (made : intSlot a₂ = (count, a₃)) (placed₃ : Placed p a₃)
      (counted : emit (.loadImm count text.length) a₃ = ((), a₄)) (placed₄ : Placed p a₄)
      (made' : objSlot a₄ = (got, a₅)) (placed₅ : Placed p a₅)
      (taken : invoke .takeChars [.int count] (some (.obj got)) fail a₅ = ((), b))
      (placed : Placed p b) : TakingCode p text start fail got a b

/-- The code of a text in any case that compares the characters taken with the text. -/
inductive ComparisonCode (p : Program) (text : String) (start : IntSlot) (fail : Label)
    (got : ObjSlot) (a b : Assembler) : Prop where
  | intro {a₁ a₂ a₃ a₄ a₅ a₆ a₇ : Assembler} {folded want : ObjSlot} {ok : Label}
      (made : objSlot a = (folded, a₁)) (placed₁ : Placed p a₁)
      (lowered : invoke .foldCase [.obj got] (some (.obj folded)) fail a₁ = ((), a₂))
      (placed₂ : Placed p a₂) (made' : objSlot a₂ = (want, a₃)) (placed₃ : Placed p a₃)
      (loaded : loadValue want (.str (Text.lowerCase text)) a₃ = ((), a₄)) (placed₄ : Placed p a₄)
      (compared : emit (.jumpIfObjEq folded want ok) a₄ = ((), a₅)) (placed₅ : Placed p a₅)
      (tail : failTail fail (some start) a₅ = ((), a₆)) (placed₆ : Placed p a₆)
      (marked : mark ok a₆ = ((), a₇)) (placed₇ : Placed p a₇)
      (returned : ret true a₇ = ((), b)) (placed : Placed p b) :
    ComparisonCode p text start fail got a b

/-- The code of a text in any case takes characters, then compares them. -/
theorem foldedLiteral_code {p : Program} {text : String} (h : foldedLiteral text a = (slot, b))
    (placed : Placed p b) : ∃ (start : IntSlot) (fail : Label) (got : ObjSlot) (c : Assembler),
      slot = some (.obj got) ∧ TakingCode p text start fail got a c ∧
        ComparisonCode p text start fail got c b := by
  unfold foldedLiteral at h
  obtain ⟨start, a₁, saved, h₁, placed₁⟩ := assemble_split h placed
  obtain ⟨fail, a₂, labelled, h₂, _⟩ := assemble_split h₁ placed
  obtain ⟨ok, a₃, labelled', h₃, _⟩ := assemble_split h₂ placed
  obtain ⟨count, a₄, made, h₄, placed₄⟩ := assemble_split h₃ placed
  obtain ⟨_, a₅, counted, h₅, placed₅⟩ := assemble_split h₄ placed
  obtain ⟨got, a₆, gotMade, h₆, placed₆⟩ := assemble_split h₅ placed
  obtain ⟨_, a₇, taken, h₇, placed₇⟩ := assemble_split h₆ placed
  obtain ⟨folded, a₈, foldedMade, h₈, placed₈⟩ := assemble_split h₇ placed
  obtain ⟨_, a₉, lowered, h₉, placed₉⟩ := assemble_split h₈ placed
  obtain ⟨want, a₁₀, wantMade, h₁₀, placed₁₀⟩ := assemble_split h₉ placed
  obtain ⟨_, a₁₁, loaded, h₁₁, placed₁₁⟩ := assemble_split h₁₀ placed
  obtain ⟨_, a₁₂, compared, h₁₂, placed₁₂⟩ := assemble_split h₁₁ placed
  obtain ⟨_, a₁₃, tail, h₁₃, placed₁₃⟩ := assemble_split h₁₂ placed
  obtain ⟨_, a₁₄, marked, h₁₄, placed₁₄⟩ := assemble_split h₁₃ placed
  obtain ⟨_, a₁₅, returned, h₁₅, placed₁₅⟩ := assemble_split h₁₄ placed
  cases h₁₅
  exact ⟨start, fail, got, a₇, rfl,
    .intro saved placed₁ ((newLabel_still labelled).trans (newLabel_still labelled')) made placed₄
      counted placed₅ gotMade placed₆ taken placed₇,
    .intro foldedMade placed₈ lowered placed₉ wantMade placed₁₀ loaded placed₁₁ compared placed₁₂
      tail placed₁₃ marked placed₁₄ returned placed⟩

section

variable {text : String} {start : IntSlot} {fail : Label} {got : ObjSlot}

/-- The registers for where the literal began and for the characters taken are in use. -/
theorem TakingCode.slots {p : Program} (code : TakingCode p text start fail got a b) :
    start.index < p.intSlots ∧ got.index < b.objSlots ∧ got.index < p.objSlots := by
  obtain ⟨saved, placed₁, labelled, made, placed₃, counted, placed₄, made', placed₅, taken,
    placed⟩ := code
  have got_fresh := (objSlot_fresh made' placed₅).1
  refine ⟨(savePos_fresh saved placed₁).inside, ?_, got_fresh.inside⟩
  rw [(emit_found taken placed).2.2.2]
  exact got_fresh.used

/-- Where enough characters follow they are taken, otherwise the run goes to the label. -/
theorem concludes_taking (sound : s.Sound) {pc : Nat}
    (code : TakingCode s.program text start fail got a b)
    (place : s.program.labels[fail.index]? = some (some pc))
    (enough : ∀ (regs' : Registers) (read rest : List Char),
      following s.env.text s.start = read ++ rest → read.length = text.length →
      regs'.int start = s.start → regs'.obj got = .str (String.ofList read) →
      s.Concludes Q b.code.size regs' (s.start + Text.width read))
    (few : ∀ regs' : Registers, (following s.env.text s.start).length < text.length →
      regs'.int start = s.start → s.Concludes Q pc regs' s.start) :
    s.Concludes Q a.code.size regs s.start := by
  obtain @⟨_, _, _, _, _, count, saved, placed₁, labelled, made, placed₃, counted, placed₄, made',
    placed₅, taken, placed⟩ := code
  have start_fresh := savePos_fresh saved placed₁
  obtain ⟨count_fresh, size₃⟩ := intSlot_fresh made placed₃
  obtain ⟨got_fresh, size₅⟩ := objSlot_fresh made' placed₅
  have start_count : start.index ≠ count.index := by
    rw [start_fresh.index, count_fresh.index, labelled.intSlots, start_fresh.intSlots]
    omega
  refine .intro fun fits _ => concludes_savePos sound saved placed₁ (concludes_still labelled ?_)
  rw [← size₃]
  refine concludes_loadImm counted placed₄ count_fresh.inside ?_
  rw [← size₅]
  have fits₁ := (fits.setInt start s.start).setInt count text.length
  have kept := ((regs.setInt start s.start).int_setInt_of_ne start_count text.length).trans
    (Registers.int_setInt fits start_fresh.inside s.start)
  have asked := Registers.int_setInt (fits.setInt start s.start) count_fresh.inside text.length
  generalize (regs.setInt start s.start).setInt count text.length = regs₁ at fits₁ kept asked
  have skipped := Text.skipExactly?_eq s.env.text s.start text.length
  by_cases long : text.length ≤ (following s.env.text s.start).length
  · rw [if_pos long] at skipped
    have cut := (List.take_append_drop text.length (following s.env.text s.start)).symm
    have size := List.length_take_of_le long
    have value := Text.between_eq cut
    generalize (following s.env.text s.start).take text.length = read at *
    refine concludes_invoke taken placed (fun fits furthest => ?_) (Text.Within.of_following cut)
      (fun fits => fits.setObj got (.str (String.ofList read)))
      (fun fits _ => storeValue_obj fits got_fresh.inside _)
      (enough _ _ _ cut size kept (Registers.obj_setObj fits₁ got_fresh.inside _))
    refine ⟨max furthest (s.start + Text.width read), ?_⟩
    rw [perform_takeChars fits count_fresh.inside asked, skipped, Option.map_some, value]
    rfl
  · rw [if_neg long] at skipped
    refine concludes_invoke_fail taken placed place (fun fits furthest => ?_)
      (few regs₁ (Nat.not_le.mp long) kept)
    rw [perform_takeChars fits count_fresh.inside asked, skipped]
    rfl

/-- Where a text in any case fails it goes back to where it began. -/
theorem ComparisonCode.fails (code : ComparisonCode s.program text start fail got a b)
    (inside : start.index < s.program.intSlots) :
    ∃ pc, s.program.labels[fail.index]? = some (some pc) ∧
      ∀ (Q : Goal) (regs : Registers) (pos : Nat), regs.int start = s.start → Q .failed →
        s.Concludes Q pc regs pos := by
  obtain ⟨_, _, _, _, _, _, _, _, _, _, tail, placed₆⟩ := code
  obtain ⟨place, failed⟩ := concludes_failTail tail placed₆
  refine ⟨_, place, fun Q regs pos kept holds => failed Q regs pos ?_ holds⟩
  rintro _ ⟨⟩
  exact ⟨inside, kept⟩

/-- The characters taken are the result if they are the text in lower case. -/
theorem concludes_comparison {read : String}
    (code : ComparisonCode s.program text start fail got a b)
    (result : s.program.result = some (.obj got)) (output : s.program.output = .text)
    (start_inside : start.index < s.program.intSlots) (used : got.index < a.objSlots)
    (inside : got.index < s.program.objSlots) (held : regs.obj got = .str read)
    (kept : regs.int start = s.start)
    (same : Text.lowerCase read = Text.lowerCase text → Q (.matched (some (.str read)) pos))
    (differs : Text.lowerCase read ≠ Text.lowerCase text → Q .failed) :
    s.Concludes Q a.code.size regs pos := by
  obtain @⟨_, _, _, _, _, _, _, folded, want, ok, made, placed₁, lowered, placed₂, made', placed₃,
    loaded, placed₄, compared, placed₅, tail, placed₆, marked, placed₇, returned, placed⟩ := code
  obtain ⟨folded_fresh, size₁⟩ := objSlot_fresh made placed₁
  obtain ⟨want_fresh, size₃⟩ := objSlot_fresh made' placed₃
  obtain ⟨place, failed⟩ := concludes_failTail tail placed₆
  obtain ⟨okPlace, still⟩ := mark_placed marked placed₇
  have got_folded : got.index < folded.index := used.trans_eq folded_fresh.index.symm
  have folded_want : folded.index < want.index := by
    rw [want_fresh.index, (emit_found lowered placed₂).2.2.2]
    exact folded_fresh.used
  rw [← size₁]
  refine .intro fun fits _ => concludes_invoke lowered placed₂
    (fun fits furthest => ⟨furthest, perform_foldCase fits inside held⟩) .refl
    (fun fits => fits.setObj folded (.str (Text.lowerCase read)))
    (fun fits _ => storeValue_obj fits folded_fresh.inside _) ?_
  rw [← size₃]
  refine concludes_loadText loaded placed₄ want_fresh.inside ?_
  -- Each register is a later one, so what was stored before stays.
  have fits₁ := fits.setObj folded (.str (Text.lowerCase read))
  have gotten := (regs.obj_setObj_of_ne (Nat.ne_of_lt got_folded)
    (.str (Text.lowerCase read))).trans held
  have folds := Registers.obj_setObj fits folded_fresh.inside (.str (Text.lowerCase read))
  have kept₁ : (regs.setObj folded (.str (Text.lowerCase read))).int start = s.start := kept
  generalize regs.setObj folded (.str (Text.lowerCase read)) = regs₁ at fits₁ gotten folds kept₁ ⊢
  have wants := Registers.obj_setObj fits₁ want_fresh.inside (.str (Text.lowerCase text))
  have folds' := (regs₁.obj_setObj_of_ne (Nat.ne_of_lt folded_want)
    (.str (Text.lowerCase text))).trans folds
  have gotten' := (regs₁.obj_setObj_of_ne
    (Nat.ne_of_lt (Nat.lt_trans got_folded folded_want)) (.str (Text.lowerCase text))).trans gotten
  refine concludes_jumpIfObjEq compared placed₅ folded_fresh.inside want_fresh.inside okPlace
    (fun equal => ?_) (fun unequal => ?_)
  · rw [folds', wants, Value.str_beq, beq_iff_eq] at equal
    rw [← still.code]
    exact concludes_succeed_obj returned placed result inside (output ▸ ⟨rfl, rfl⟩) gotten'
      (same equal)
  · rw [folds', wants, Value.str_beq, beq_eq_false_iff_ne] at unequal
    refine failed _ _ _ ?_ (differs unequal)
    rintro _ ⟨⟩
    exact ⟨start_inside, kept₁⟩

end

/-- The code of a literal in any case comes out as the rule does. -/
theorem foldedLiteral_concludes [RegexEngine] (sound : s.Sound) {text : String}
    (h : foldedLiteral text a = (slot, b)) (placed : Placed s.program b)
    (result : s.program.result = slot) (output : s.program.output = .text) :
    s.Concludes (.still (fun out => leaf? s.env s.start (.literal text true) = some out) book)
      a.code.size regs s.start := by
  obtain ⟨start, fail, got, c, rfl, taking, comparison⟩ := foldedLiteral_code h placed
  obtain ⟨start_inside, used, inside⟩ := taking.slots
  obtain ⟨pc, place, failed⟩ := comparison.fails start_inside
  have meaning : leaf? s.env s.start (.literal text true) = some
      (foldedText text s.start (following s.env.text s.start)) := rfl
  rw [meaning, foldedText]
  refine concludes_taking sound taking place ?_ ?_
  · intro regs' read rest here size kept held
    have read_eq : (following s.env.text s.start).take text.length = read := by
      rw [here, ← size, List.take_left']
      rfl
    rw [read_eq]
    refine concludes_comparison comparison result output start_inside used inside held kept
      (fun same => ?_) (fun differs => ?_)
    · exact ⟨by rw [if_pos ⟨size, same⟩], rfl⟩
    · exact ⟨by rw [if_neg fun both => differs both.2], rfl⟩
  · intro regs' short kept
    refine failed _ regs' s.start kept ⟨?_, rfl⟩
    rw [if_neg]
    rintro ⟨size, _⟩
    rw [List.length_take] at size
    omega

/-! ## Character classes -/

/-- A run that comes to the tests with a character in the register goes to the label if the
character is a member, and on behind the tests if it is not. -/
def Decides (s : Scene) (tests : IntSlot → Label → Assemble Unit) (member : Char → Bool) : Prop :=
  ∀ (a b : Assembler) (u : Unit) (c : IntSlot) (hit : Label) (pc : Nat),
    tests c hit a = (u, b) → Placed s.program b → c.index < s.program.intSlots →
    s.program.labels[hit.index]? = some (some pc) →
    ∀ (Q : Goal) (regs : Registers) (pos : Nat) (d : Char), regs.int c = charCode d →
      (member d = true → s.Concludes Q pc regs pos) →
      (member d = false → s.Concludes Q b.code.size regs pos) → s.Concludes Q a.code.size regs pos

/-- The tests for ranges decide whether a character is in one of them. -/
theorem testRanges_decides (s : Scene) (ranges : List (Char × Char)) :
    Decides s (fun c hit => testRanges c hit ranges) (inRanges ranges) := by
  intro a b u c hit pc h placed inside place Q regs pos d held yes no
  induction ranges generalizing a u with
  | nil =>
    cases h
    exact no rfl
  | cons range ranges ih =>
    obtain ⟨lo, hi⟩ := range
    change testRanges c hit ((lo, hi) :: ranges) a = (u, b) at h
    unfold testRanges at h
    obtain ⟨next, a₁, labelled, h₁, placed₁⟩ := assemble_split h placed
    obtain ⟨_, a₂, below, h₂, placed₂⟩ := assemble_split h₁ placed
    obtain ⟨_, a₃, above, h₃, placed₃⟩ := assemble_split h₂ placed
    obtain ⟨_, a₄, marked, h₄, placed₄⟩ := assemble_split h₃ placed
    obtain ⟨nextPlace, still₄⟩ := mark_placed marked placed₄
    have lower : charCode d < charCode lo ↔ ¬ lo ≤ d := by
      rw [charCode, charCode, Int.ofNat_lt, ← Nat.not_le]
      exact Iff.rfl
    have upper : charCode d ≤ charCode hi ↔ d ≤ hi := by
      rw [charCode, charCode, Int.ofNat_le]
      exact Iff.rfl
    -- Both ways past this range lead to the tests that are left.
    have later (outside : ¬ (lo ≤ d ∧ d ≤ hi)) : s.Concludes Q a₃.code.size regs pos := by
      have split : inRanges ((lo, hi) :: ranges) d = inRanges ranges d := by
        simp only [inRanges, List.any_cons, Bool.or_eq_right_iff_imp, Bool.and_eq_true,
          decide_eq_true_eq]
        exact fun both => absurd both outside
      rw [split] at yes no
      exact concludes_still still₄ (ih _ _ h₄ yes no)
    refine concludes_still (newLabel_still labelled)
      (concludes_jumpIf below placed₂ inside nextPlace (fun taken => ?_) (fun passed => ?_))
    · simp only [Cond.holds, held, decide_eq_true_eq, lower] at taken
      exact later (fun both => taken both.1)
    · simp only [Cond.holds, held, decide_eq_false_iff_not, lower, Decidable.not_not] at passed
      refine concludes_jumpIf above placed₃ inside place (fun taken => ?_) (fun passed' => ?_)
      · simp only [Cond.holds, held, decide_eq_true_eq, upper] at taken
        exact yes (by simp [inRanges, passed, taken])
      · simp only [Cond.holds, held, decide_eq_false_iff_not, upper] at passed'
        exact later (fun both => passed' both.2)

/-- The tests for characters decide whether a character is one of them. -/
theorem testChars_decides (s : Scene) (chars : List Char) :
    Decides s (fun c hit => testChars c hit chars) (fun d => chars.contains d) := by
  intro a b u c hit pc h placed inside place Q regs pos d held yes no
  induction chars generalizing a u with
  | nil =>
    cases h
    exact no rfl
  | cons e chars ih =>
    change testChars c hit (e :: chars) a = (u, b) at h
    unfold testChars at h
    obtain ⟨_, a₁, test, h₁, placed₁⟩ := assemble_split h placed
    refine concludes_jumpIf test placed₁ inside place (fun taken => ?_) (fun passed => ?_)
    · simp only [Cond.holds, held, decide_eq_true_eq, charCode_inj] at taken
      exact yes (by simp [taken])
    · simp only [Cond.holds, held, decide_eq_false_iff_not, charCode_inj] at passed
      have split : (e :: chars).contains d = chars.contains d := by
        rw [List.contains_cons, beq_eq_false_iff_ne.mpr passed, Bool.false_or]
      exact ih _ _ h₁ (fun found => yes (split.trans found)) (fun none => no (split.trans none))

/-- At the end of the text no test leads to its label. -/
theorem concludes_testChars_end {c : IntSlot} {hit : Label} {pc : Nat} {chars : List Char}
    (h : testChars c hit chars a = (u, b)) (placed : Placed s.program b)
    (inside : c.index < s.program.intSlots)
    (place : s.program.labels[hit.index]? = some (some pc)) (held : regs.int c = -1)
    (rest : s.Concludes Q b.code.size regs pos) : s.Concludes Q a.code.size regs pos := by
  induction chars generalizing a u with
  | nil =>
    cases h
    exact rest
  | cons e chars ih =>
    unfold testChars at h
    obtain ⟨_, a₁, test, h₁, placed₁⟩ := assemble_split h placed
    refine concludes_jumpIf test placed₁ inside place (fun taken => ?_) (fun _ => ih h₁)
    simp only [Cond.holds, held, decide_eq_true_eq] at taken
    rw [charCode] at taken
    omega

/-- The end of a test: a character that is refused leads on, any other is consumed. -/
theorem concludes_takeMember {negated : Bool} {fail hit : Label} {out : IntSlot} {d : Char}
    {rest : List Char} (h : takeMember negated fail hit a = (u, b)) (placed : Placed s.program b)
    (place : s.program.labels[fail.index]? = some (some b.code.size))
    (result : s.program.result = some (.int out)) (inside : out.index < s.program.intSlots)
    (output : s.program.output = .char) (held : regs.int out = charCode d)
    (here : following s.env.text pos = d :: rest)
    (missed : Q .failed → s.Concludes Q b.code.size regs pos) :
    ∃ pc, s.program.labels[hit.index]? = some (some pc) ∧
      (Q (oneOf (fun _ => true) negated pos (d :: rest)) → s.Concludes Q pc regs pos) ∧
      (Q (oneOf (fun _ => false) negated pos (d :: rest)) →
        s.Concludes Q a.code.size regs pos) := by
  unfold takeMember at h
  cases negated with
  | true =>
    obtain ⟨_, a₁, forward, h₁, placed₁⟩ := assemble_split h placed
    obtain ⟨_, a₂, returned, marked, placed₂⟩ := assemble_split h₁ placed
    obtain ⟨hitPlace, still⟩ := mark_placed marked placed
    exact ⟨_, hitPlace, fun refused => still.code ▸ missed refused, fun taken =>
      concludes_advance forward placed₁ here
        (concludes_succeed_char returned placed₂ result inside output held taken)⟩
  | false =>
    obtain ⟨_, a₁, left, h₁, placed₁⟩ := assemble_split h placed
    obtain ⟨_, a₂, marked, h₂, placed₂⟩ := assemble_split h₁ placed
    obtain ⟨_, a₃, forward, returned, placed₃⟩ := assemble_split h₂ placed
    obtain ⟨hitPlace, still⟩ := mark_placed marked placed₂
    exact ⟨_, hitPlace, fun taken => concludes_still still (concludes_advance forward placed₃ here
        (concludes_succeed_char returned placed result inside output held taken)),
      fun refused => concludes_jump left placed₁ place (missed refused)⟩

/-- The code of a class of characters comes out as its tests decide about the next one. -/
theorem charClass_concludes {negated : Bool} {tests : IntSlot → Label → Assemble Unit}
    {member : Char → Bool} [∀ c hit, Grows (tests c hit)] (decides : Decides s tests member)
    (h : charClass negated tests a = (slot, b)) (placed : Placed s.program b)
    (result : s.program.result = slot) (output : s.program.output = .char)
    (holds : Q (oneOf member negated pos (following s.env.text pos))) :
    s.Concludes Q a.code.size regs pos := by
  unfold charClass at h
  obtain ⟨fail, a₁, labelled, h₁, placed₁⟩ := assemble_split h placed
  obtain ⟨hit, a₂, labelled', h₂, placed₂⟩ := assemble_split h₁ placed
  obtain ⟨c, a₃, fresh, h₃, placed₃⟩ := assemble_split h₂ placed
  obtain ⟨_, a₄, peek, h₄, placed₄⟩ := assemble_split h₃ placed
  obtain ⟨_, a₅, atEnd, h₅, placed₅⟩ := assemble_split h₄ placed
  obtain ⟨_, a₆, tested, h₆, placed₆⟩ := assemble_split h₅ placed
  obtain ⟨_, a₇, taken, h₇, placed₇⟩ := assemble_split h₆ placed
  obtain ⟨_, a₈, tail, h₈, placed₈⟩ := assemble_split h₇ placed
  cases h₈
  obtain ⟨⟨_, _, _, inside⟩, size₃⟩ := intSlot_fresh fresh placed₃
  obtain ⟨place, failed⟩ := concludes_failTail tail placed
  refine .intro fun fits _ => concludes_still (newLabel_still labelled)
    (concludes_still (newLabel_still labelled') ?_)
  rw [← size₃]
  refine concludes_peekChar peek placed₄ inside ?_
  have held := Registers.int_setInt fits inside (peeked s.env.text pos)
  generalize regs.setInt c (peeked s.env.text pos) = regs' at held ⊢
  have missed : Q .failed → s.Concludes Q a₇.code.size regs' pos := failed Q regs' pos (by simp)
  cases here : following s.env.text pos with
  | nil =>
    rw [here] at holds
    refine concludes_jumpIf atEnd placed₅ inside place (fun _ => missed holds) fun more => ?_
    rw [held, peeked_nil here] at more
    cases more
  | cons d rest =>
    rw [here] at holds
    rw [peeked_cons here] at held
    refine concludes_jumpIf atEnd placed₅ inside place (fun ended => ?_) fun _ => ?_
    · simp only [Cond.holds, held, decide_eq_true_eq] at ended
      rw [charCode] at ended
      omega
    obtain ⟨pc, hitPlace, hits, misses⟩ :=
      concludes_takeMember taken placed₇ place result inside output held here missed
    exact decides a₅ a₆ _ c hit pc tested placed₆ inside hitPlace Q regs' pos d held
      (fun yes => hits (by rwa [oneOf, yes] at holds))
      (fun no => misses (by rwa [oneOf, no] at holds))

/-! ## Operations on the text -/

/-- How an operation that finds something, or does not, comes out. -/
def foundOutcome : Option (Nat × Value) → Outcome
  | some (stop, v) => .matched (some v) stop
  | none => .failed

/-- An operation finds something at a place, or does not. -/
structure Finds (s : Scene) (op : Native) (found : Option (Nat × Value)) : Prop where
  within : ∀ stop v, found = some (stop, v) → Within s.env.text s.start stop
  some : ∀ stop v, found = some (stop, v) → ∀ (regs : Registers) (furthest : Nat),
    ∃ furthest', perform s.env s.program [] op ⟨regs, ⟨s.start, furthest⟩⟩ =
      .ok (some v) ⟨regs, ⟨stop, furthest'⟩⟩
  none : found = none → ∀ (regs : Registers) (furthest : Nat),
    perform s.env s.program [] op ⟨regs, ⟨s.start, furthest⟩⟩ =
      .ok none ⟨regs, ⟨s.start, furthest⟩⟩

/-- What an operation that may move forward finds is where it leads and what it yields. -/
theorem finds_of_consumed {op : Native} {found : Option (Nat × Value)}
    (within : ∀ stop v, found = some (stop, v) → Within s.env.text s.start stop)
    (performs : ∀ regs furthest, perform s.env s.program [] op ⟨regs, ⟨s.start, furthest⟩⟩ =
      consumed regs ⟨s.start, furthest⟩ found) : Finds s op found where
  within := within
  some := by
    rintro stop v rfl regs furthest
    exact ⟨max furthest stop, performs regs furthest⟩
  none := by
    rintro rfl regs furthest
    exact performs regs furthest

/-- The code of an operation that finds something comes out as it finds it, or does not. -/
theorem native_concludes {op : Native} {found : Option (Nat × Value)} (finds : Finds s op found)
    (h : native cx op a = (slot, b)) (placed : Placed s.program b)
    (result : s.program.result = slot) (output : s.program.output = cx.output)
    (typed : Boxed cx.output ∨
      cx.output = .int ∧ ∀ stop v, found = some (stop, v) → ∃ n, v = .int n) :
    s.Concludes (.still (fun out => foundOutcome found = out) book) a.code.size regs s.start := by
  unfold native at h
  obtain ⟨fail, a₁, labelled, h₁, placed₁⟩ := assemble_split h placed
  obtain ⟨out, a₂, made, h₂, placed₂⟩ := assemble_split h₁ placed
  obtain ⟨_, a₃, invoked, h₃, placed₃⟩ := assemble_split h₂ placed
  obtain ⟨_, a₄, returned, h₄, placed₄⟩ := assemble_split h₃ placed
  obtain ⟨_, a₅, tail, h₅, placed₅⟩ := assemble_split h₄ placed
  cases h₅
  obtain ⟨fresh, size₂⟩ := slotFor_fresh made placed₂
  obtain ⟨place, failed⟩ := concludes_failTail tail placed
  refine concludes_still (newLabel_still labelled) ?_
  rw [← size₂]
  cases found with
  | none =>
    refine concludes_invoke_fail invoked placed₃ place (fun _ => finds.none rfl regs) ?_
    exact failed _ _ _ (by simp) ⟨rfl, rfl⟩
  | some found =>
    obtain ⟨stop, v⟩ := found
    refine .intro fun fits _ => ?_
    cases fresh with
    | void void =>
      rcases typed with ⟨notVoid, _⟩ | ⟨int, _⟩
      · rw [void] at notVoid
        cases notVoid
      · rw [int] at void
        cases void
    | int scalar fresh =>
      rcases typed with ⟨_, notScalar⟩ | ⟨int, ints⟩
      · rw [notScalar] at scalar
        cases scalar
      · obtain ⟨n, rfl⟩ := ints stop v rfl
        exact concludes_invoke invoked placed₃ (fun _ => finds.some _ _ rfl regs)
          (finds.within _ _ rfl) (fun fits => fits.setInt _ n)
          (fun fits _ => storeValue_int fits fresh.inside n)
          (concludes_succeed_int returned placed₄ result fresh.inside (output.trans int)
            (Registers.int_setInt fits fresh.inside n) ⟨rfl, rfl⟩)
    | obj boxed fresh =>
      exact concludes_invoke invoked placed₃ (fun _ => finds.some _ _ rfl regs)
        (finds.within _ _ rfl) (fun fits => fits.setObj _ v)
        (fun fits _ => storeValue_obj fits fresh.inside v)
        (concludes_succeed_obj returned placed₄ result fresh.inside (output ▸ boxed)
          (Registers.obj_setObj fits fresh.inside v) ⟨rfl, rfl⟩)

/-! ## Layout and places -/

/-- The code of a loop over characters: one that is listed is consumed, and the run ends in front of
any other. -/
inductive SkippingCode (p : Program) (chars : List Char) (c : IntSlot) (top skip : Label)
    (a b : Assembler) : Prop where
  | intro {a₁ a₂ a₃ a₄ a₅ a₆ : Assembler}
      (begins : mark top a = ((), a₁)) (placed₁ : Placed p a₁)
      (peek : emit (.peekChar c) a₁ = ((), a₂)) (placed₂ : Placed p a₂)
      (tested : testChars c skip chars a₂ = ((), a₃)) (placed₃ : Placed p a₃)
      (returned : ret true a₃ = ((), a₄)) (placed₄ : Placed p a₄)
      (marked : mark skip a₄ = ((), a₅)) (placed₅ : Placed p a₅)
      (forward : emit (.advance 1) a₅ = ((), a₆)) (placed₆ : Placed p a₆)
      (again : jump top a₆ = ((), b)) (placed : Placed p b) :
    SkippingCode p chars c top skip a b

/-- The code of layout is a loop over its characters. -/
theorem whitespace_code {p : Program} (h : whitespace a = (slot, b)) (placed : Placed p b) :
    ∃ (c : IntSlot) (top skip : Label) (d : Assembler), slot = none ∧ d.code.size = a.code.size ∧
      c.index < p.intSlots ∧ SkippingCode p [' ', '\t', '\n', '\r'] c top skip d b := by
  unfold whitespace at h
  obtain ⟨top, a₁, labelled, h₁, _⟩ := assemble_split h placed
  obtain ⟨skip, a₂, labelled', h₂, _⟩ := assemble_split h₁ placed
  obtain ⟨c, a₃, fresh, h₃, placed₃⟩ := assemble_split h₂ placed
  obtain ⟨_, a₄, begins, h₄, placed₄⟩ := assemble_split h₃ placed
  obtain ⟨_, a₅, peek, h₅, placed₅⟩ := assemble_split h₄ placed
  obtain ⟨_, a₆, tested, h₆, placed₆⟩ := assemble_split h₅ placed
  obtain ⟨_, a₇, returned, h₇, placed₇⟩ := assemble_split h₆ placed
  obtain ⟨_, a₈, marked, h₈, placed₈⟩ := assemble_split h₇ placed
  obtain ⟨_, a₉, forward, h₉, placed₉⟩ := assemble_split h₈ placed
  obtain ⟨_, a₁₀, again, h₁₀, placed₁₀⟩ := assemble_split h₉ placed
  cases h₁₀
  obtain ⟨c_fresh, size⟩ := intSlot_fresh fresh placed₃
  have still := (newLabel_still labelled).trans (newLabel_still labelled')
  exact ⟨c, top, skip, a₃, rfl, size.trans still.code, c_fresh.inside,
    .intro begins placed₄ peek placed₅ tested placed₆ returned placed₇ marked placed₈ forward
      placed₉ again placed⟩

/-- Each round consumes one of the characters that follow. -/
theorem concludes_skipping {chars : List Char} {c : IntSlot} {top skip : Label}
    (code : SkippingCode s.program chars c top skip a b) (inside : c.index < s.program.intSlots)
    (result : s.program.result = none) (output : s.program.output = .void) {rest : List Char}
    (here : following s.env.text pos = rest)
    (holds : Q (.matched none (pos + Text.width (rest.takeWhile fun d => chars.contains d)))) :
    s.Concludes Q a.code.size regs pos := by
  obtain @⟨_, a₂, a₃, _, _, _, begins, placed₁, peek, placed₂, tested, placed₃, returned, placed₄,
    marked, placed₅, forward, placed₆, again, placed⟩ := code
  obtain ⟨topPlace, begun⟩ := mark_placed begins placed₁
  obtain ⟨skipPlace, still⟩ := mark_placed marked placed₅
  induction rest generalizing regs pos with
  | nil =>
    refine concludes_still begun (.intro fun fits _ => concludes_peekChar peek placed₂ inside ?_)
    have held := Registers.int_setInt fits inside (peeked s.env.text pos)
    refine concludes_testChars_end tested placed₃ inside skipPlace
      (held.trans (peeked_nil here)) ?_
    exact concludes_succeed_void returned placed₄ result output holds
  | cons d rest ih =>
    refine concludes_still begun (.intro fun fits _ => concludes_peekChar peek placed₂ inside ?_)
    have held := Registers.int_setInt fits inside (peeked s.env.text pos)
    refine testChars_decides s _ a₂ a₃ _ c skip _ tested placed₃ inside skipPlace _ _ _ d
      (held.trans (peeked_cons here)) (fun listed => ?_) (fun other => ?_)
    · rw [← still.code]
      refine concludes_advance forward placed₆ here (concludes_jump again placed topPlace
        (ih (Text.following_next here) ?_))
      rwa [List.takeWhile_cons, if_pos listed, Text.width_cons, ← Nat.add_assoc] at holds
    · rw [List.takeWhile_cons, if_neg (Bool.eq_false_iff.mp other)] at holds
      exact concludes_succeed_void returned placed₄ result output holds

/-- The code for white space comes out as the rule does. -/
theorem whitespace_concludes [RegexEngine] (h : whitespace a = (slot, b))
    (placed : Placed s.program b) (result : s.program.result = slot)
    (output : s.program.output = .void) :
    s.Concludes (.still (fun out => leaf? s.env pos .whitespace = some out) book)
      a.code.size regs pos := by
  obtain ⟨c, top, skip, d, rfl, size, inside, code⟩ := whitespace_code h placed
  rw [← size]
  exact concludes_skipping code inside result output rfl ⟨rfl, rfl⟩

/-- The code of a line end behind the test for a carriage return. -/
inductive ReturnCode (p : Program) (c : IntSlot) (cr ok : Label) (a b : Assembler) : Prop where
  | intro {a₁ a₂ a₃ a₄ a₅ a₆ : Assembler}
      (marked : mark cr a = ((), a₁)) (placed₁ : Placed p a₁)
      (forward : emit (.advance 1) a₁ = ((), a₂)) (placed₂ : Placed p a₂)
      (peek : emit (.peekChar c) a₂ = ((), a₃)) (placed₃ : Placed p a₃)
      (tested : jumpIf .ne c (charCode '\n') ok a₃ = ((), a₄)) (placed₄ : Placed p a₄)
      (forward' : emit (.advance 1) a₄ = ((), a₅)) (placed₅ : Placed p a₅)
      (accepts : mark ok a₅ = ((), a₆)) (placed₆ : Placed p a₆)
      (returned : ret true a₆ = ((), b)) (placed : Placed p b) : ReturnCode p c cr ok a b

/-- The code of a line end. -/
inductive LineEndCode (p : Program) (c : IntSlot) (a b : Assembler) : Prop where
  | intro {a₁ a₂ a₃ a₄ a₅ a₆ a₇ a₈ : Assembler} {ok lf cr : Label}
      (peek : emit (.peekChar c) a = ((), a₁)) (placed₁ : Placed p a₁)
      (atEnd : jumpIf .lt c 0 ok a₁ = ((), a₂)) (placed₂ : Placed p a₂)
      (atFeed : jumpIf .eq c (charCode '\n') lf a₂ = ((), a₃)) (placed₃ : Placed p a₃)
      (atReturn : jumpIf .eq c (charCode '\r') cr a₃ = ((), a₄)) (placed₄ : Placed p a₄)
      (refused : ret false a₄ = ((), a₅)) (placed₅ : Placed p a₅)
      (marked : mark lf a₅ = ((), a₆)) (placed₆ : Placed p a₆)
      (forward : emit (.advance 1) a₆ = ((), a₇)) (placed₇ : Placed p a₇)
      (returned : ret true a₇ = ((), a₈)) (placed₈ : Placed p a₈)
      (rest : ReturnCode p c cr ok a₈ b) : LineEndCode p c a b

/-- The code of a line end uses one register. -/
theorem eol_code {p : Program} (h : eol a = (slot, b)) (placed : Placed p b) :
    ∃ (c : IntSlot) (d : Assembler), slot = none ∧ d.code.size = a.code.size ∧
      c.index < p.intSlots ∧ LineEndCode p c d b := by
  unfold eol at h
  obtain ⟨ok, a₁, l₁, h₁, _⟩ := assemble_split h placed
  obtain ⟨lf, a₂, l₂, h₂, _⟩ := assemble_split h₁ placed
  obtain ⟨cr, a₃, l₃, h₃, _⟩ := assemble_split h₂ placed
  obtain ⟨c, a₄, fresh, h₄, placed₄⟩ := assemble_split h₃ placed
  obtain ⟨_, a₅, peek, h₅, placed₅⟩ := assemble_split h₄ placed
  obtain ⟨_, a₆, atEnd, h₆, placed₆⟩ := assemble_split h₅ placed
  obtain ⟨_, a₇, atFeed, h₇, placed₇⟩ := assemble_split h₆ placed
  obtain ⟨_, a₈, atReturn, h₈, placed₈⟩ := assemble_split h₇ placed
  obtain ⟨_, a₉, refused, h₉, placed₉⟩ := assemble_split h₈ placed
  obtain ⟨_, a₁₀, lfMarked, h₁₀, placed₁₀⟩ := assemble_split h₉ placed
  obtain ⟨_, a₁₁, forward, h₁₁, placed₁₁⟩ := assemble_split h₁₀ placed
  obtain ⟨_, a₁₂, returned, h₁₂, placed₁₂⟩ := assemble_split h₁₁ placed
  obtain ⟨_, a₁₃, crMarked, h₁₃, placed₁₃⟩ := assemble_split h₁₂ placed
  obtain ⟨_, a₁₄, forward', h₁₄, placed₁₄⟩ := assemble_split h₁₃ placed
  obtain ⟨_, a₁₅, peek', h₁₅, placed₁₅⟩ := assemble_split h₁₄ placed
  obtain ⟨_, a₁₆, tested, h₁₆, placed₁₆⟩ := assemble_split h₁₅ placed
  obtain ⟨_, a₁₇, forward'', h₁₇, placed₁₇⟩ := assemble_split h₁₆ placed
  obtain ⟨_, a₁₈, accepts, h₁₈, placed₁₈⟩ := assemble_split h₁₇ placed
  obtain ⟨_, a₁₉, returned', h₁₉, placed₁₉⟩ := assemble_split h₁₈ placed
  cases h₁₉
  obtain ⟨c_fresh, size⟩ := intSlot_fresh fresh placed₄
  have still := (newLabel_still l₁).trans ((newLabel_still l₂).trans (newLabel_still l₃))
  exact ⟨c, a₄, rfl, size.trans still.code, c_fresh.inside,
    .intro peek placed₅ atEnd placed₆ atFeed placed₇ atReturn placed₈ refused placed₉ lfMarked
      placed₁₀ forward placed₁₁ returned placed₁₂
      (.intro crMarked placed₁₃ forward' placed₁₄ peek' placed₁₅ tested placed₁₆ forward''
        placed₁₇ accepts placed₁₈ returned' placed)⟩

/-- The label for a carriage return is where its code begins. -/
theorem ReturnCode.place {p : Program} {c : IntSlot} {cr ok : Label}
    (code : ReturnCode p c cr ok a b) : p.labels[cr.index]? = some (some a.code.size) := by
  obtain ⟨marked, placed₁⟩ := code
  exact (mark_placed marked placed₁).1

/-- A carriage return without a line feed is a line end. -/
theorem lineEnd_return {c : Char} (differs : c ≠ '\n') (rest : List Char) :
    lineEnd pos ('\r' :: c :: rest) = .matched none (pos + 1) := by
  simp [lineEnd, differs]

/-- Other characters are no line ends. -/
theorem lineEnd_other {c : Char} (notFeed : c ≠ '\n') (notReturn : c ≠ '\r') (rest : List Char) :
    lineEnd pos (c :: rest) = .failed := by
  unfold lineEnd
  split <;> simp_all

section

variable {c : IntSlot} {cr ok : Label} (inside : c.index < s.program.intSlots)
  (result : s.program.result = none) (output : s.program.output = .void)

include result output

/-- The shared end of a run that succeeds. -/
theorem ReturnCode.succeeds (code : ReturnCode s.program c cr ok a b) :
    ∃ pc, s.program.labels[ok.index]? = some (some pc) ∧
      ∀ (Q : Goal) (regs : Registers) (pos : Nat), Q (.matched none pos) →
        s.Concludes Q pc regs pos := by
  obtain ⟨_, _, _, _, _, _, _, _, _, _, accepts, placed₆, returned, placed⟩ := code
  obtain ⟨place, still⟩ := mark_placed accepts placed₆
  exact ⟨_, place, fun Q regs pos holds =>
    concludes_still still (concludes_succeed_void returned placed result output holds)⟩

include inside

/-- A line feed behind a carriage return belongs to the line end. -/
theorem concludes_return (code : ReturnCode s.program c cr ok a b) {rest : List Char}
    (here : following s.env.text pos = '\r' :: rest) (holds : Q (lineEnd pos ('\r' :: rest))) :
    s.Concludes Q a.code.size regs pos := by
  obtain ⟨pc, okPlace, succeeds⟩ := code.succeeds result output
  obtain ⟨marked, placed₁, forward, placed₂, peek, placed₃, tested, placed₄, forward', placed₅,
    accepts, placed₆, returned, placed⟩ := code
  have next := Text.following_next here
  refine concludes_still (mark_placed marked placed₁).2 (concludes_advance forward placed₂ here
    (.intro fun fits _ => concludes_peekChar peek placed₃ inside ?_))
  have held := Registers.int_setInt fits inside (peeked s.env.text (pos + Char.utf8Size '\r'))
  refine concludes_jumpIf tested placed₄ inside okPlace (fun alone => succeeds _ _ _ ?_)
    fun both => ?_
  · rw [held] at alone
    cases rest with
    | nil => exact holds
    | cons d rest =>
      have differs : d ≠ '\n' := by
        rintro rfl
        simp [Cond.holds, peeked_cons next] at alone
      rwa [lineEnd_return differs] at holds
  · rw [held] at both
    cases rest with
    | nil => simp [Cond.holds, charCode, peeked_nil next] at both
    | cons d rest =>
      have same : charCode d = charCode '\n' := by
        simpa [Cond.holds, peeked_cons next] using both
      obtain rfl := charCode_inj.mp same
      exact concludes_advance forward' placed₅ next
        (concludes_still (mark_placed accepts placed₆).2
          (concludes_succeed_void returned placed result output holds))

/-- The code of a line end comes out as what follows begins with a line end or not. -/
theorem concludes_lineEnd (code : LineEndCode s.program c a b)
    (holds : Q (lineEnd pos (following s.env.text pos))) : s.Concludes Q a.code.size regs pos := by
  obtain ⟨peek, placed₁, atEnd, placed₂, atFeed, placed₃, atReturn, placed₄, refused, placed₅,
    marked, placed₆, forward, placed₇, returned, placed₈, rest⟩ := code
  obtain ⟨pc, okPlace, succeeds⟩ := rest.succeeds result output
  obtain ⟨lfPlace, still⟩ := mark_placed marked placed₆
  refine .intro fun fits _ => concludes_peekChar peek placed₁ inside ?_
  have held := Registers.int_setInt fits inside (peeked s.env.text pos)
  generalize regs.setInt c (peeked s.env.text pos) = regs' at held ⊢
  cases here : following s.env.text pos with
  | nil =>
    rw [here] at holds
    refine concludes_jumpIf atEnd placed₂ inside okPlace (fun _ => succeeds _ _ _ holds)
      fun more => ?_
    rw [held, peeked_nil here] at more
    cases more
  | cons d left =>
    rw [here] at holds
    rw [peeked_cons here] at held
    refine concludes_jumpIf atEnd placed₂ inside okPlace (fun ended => ?_) fun _ => ?_
    · simp only [Cond.holds, held, decide_eq_true_eq] at ended
      rw [charCode] at ended
      omega
    refine concludes_jumpIf atFeed placed₃ inside lfPlace (fun isFeed => ?_) fun notFeed => ?_
    · simp only [Cond.holds, held, decide_eq_true_eq, charCode_inj] at isFeed
      subst isFeed
      exact concludes_still still (concludes_advance forward placed₇ here
        (concludes_succeed_void returned placed₈ result output holds))
    refine concludes_jumpIf atReturn placed₄ inside rest.place (fun isReturn => ?_)
      fun notReturn => ?_
    · simp only [Cond.holds, held, decide_eq_true_eq, charCode_inj] at isReturn
      subst isReturn
      exact concludes_return inside result output rest here holds
    · simp only [Cond.holds, held, decide_eq_false_iff_not, charCode_inj] at notFeed notReturn
      rw [lineEnd_other notFeed notReturn] at holds
      exact concludes_fail refused placed₅ holds

end

/-- The code for a line end or the end of the text comes out as the rule does. -/
theorem eol_concludes [RegexEngine] (h : eol a = (slot, b)) (placed : Placed s.program b)
    (result : s.program.result = slot) (output : s.program.output = .void) :
    s.Concludes (.still (fun out => leaf? s.env pos .eol = some out) book)
      a.code.size regs pos := by
  obtain ⟨c, d, rfl, size, inside, code⟩ := eol_code h placed
  rw [← size]
  exact concludes_lineEnd inside result output code ⟨rfl, rfl⟩

/-- The code for the end of the text comes out as the rule does. -/
theorem eoi_concludes [RegexEngine] (h : eoi a = (slot, b)) (placed : Placed s.program b)
    (result : s.program.result = slot) (output : s.program.output = .void) :
    s.Concludes (.still (fun out => leaf? s.env pos .eoi = some out) book)
      a.code.size regs pos := by
  unfold eoi at h
  obtain ⟨fail, a₁, labelled, h₁, placed₁⟩ := assemble_split h placed
  obtain ⟨c, a₂, fresh, h₂, placed₂⟩ := assemble_split h₁ placed
  obtain ⟨_, a₃, peek, h₃, placed₃⟩ := assemble_split h₂ placed
  obtain ⟨_, a₄, atChar, h₄, placed₄⟩ := assemble_split h₃ placed
  obtain ⟨_, a₅, returned, h₅, placed₅⟩ := assemble_split h₄ placed
  obtain ⟨_, a₆, tail, h₆, placed₆⟩ := assemble_split h₅ placed
  cases h₆
  obtain ⟨c_fresh, size₂⟩ := intSlot_fresh fresh placed₂
  obtain ⟨place, failed⟩ := concludes_failTail tail placed
  refine .intro fun fits _ => concludes_still (newLabel_still labelled) ?_
  rw [← size₂]
  refine concludes_peekChar peek placed₃ c_fresh.inside ?_
  have held := Registers.int_setInt fits c_fresh.inside (peeked s.env.text pos)
  refine concludes_jumpIf atChar placed₄ c_fresh.inside place (fun taken => ?_) (fun passed => ?_)
  · refine failed _ _ _ (by simp) ?_
    cases here : following s.env.text pos with
    | nil =>
      rw [held, peeked_nil here] at taken
      cases taken
    | cons d rest => simp [leaf?, here]
  · refine concludes_succeed_void returned placed₅ result output ?_
    cases here : following s.env.text pos with
    | nil => simp [leaf?, here]
    | cons d rest =>
      rw [held, peeked_cons here] at passed
      simp only [Cond.holds, decide_eq_false_iff_not] at passed
      rw [charCode] at passed
      omega

/-- The code for the position comes out as the rule does. -/
theorem location_concludes [RegexEngine] (sound : s.Sound) (h : location a = (slot, b))
    (placed : Placed s.program b) (result : s.program.result = slot)
    (output : s.program.output = .int) :
    s.Concludes (.still (fun out => leaf? s.env pos .location = some out) book)
      a.code.size regs pos := by
  unfold location at h
  obtain ⟨here, a₁, saved, h₁, placed₁⟩ := assemble_split h placed
  obtain ⟨_, a₂, returned, h₂, placed₂⟩ := assemble_split h₁ placed
  cases h₂
  have fresh := savePos_fresh saved placed₁
  refine .intro fun fits _ => concludes_savePos sound saved placed₁ ?_
  exact concludes_succeed_int returned placed₂ result fresh.inside output
    (Registers.int_setInt fits fresh.inside pos) ⟨rfl, rfl⟩

/-! ## All leaves -/

/-- The rule has no children. -/
def IsLeaf : Rule → Prop
  | .literal _ _ | .charRange _ _ | .charSet _ _ | .regex _ | .number _ | .whitespace | .eol
  | .eoi | .userObject | .location => True
  | _ => False

/-- The code of a regular expression comes out as the rule does. -/
theorem regex_concludes [RegexEngine] {pattern : String} (emits : Emits (regex cx pattern) a slot b)
    (placed : Placed s.program b) (result : s.program.result = slot)
    (output : s.program.output = cx.output) (boxed : Boxed cx.output) :
    s.Concludes (.still (fun out => leaf? s.env s.start (.regex pattern) = some out) book)
      a.code.size regs s.start := by
  unfold regex at emits
  cases compiled : RegexEngine.compile (Regex.anchored pattern) with
  | error message =>
    rw [compiled] at emits
    exact emits.not_thrown.elim
  | ok r =>
    rw [compiled] at emits
    obtain ⟨index, a₁, numbered, emits₁, placed₁⟩ := emits.step placed
    obtain ⟨found, still⟩ := regexConst_found numbered placed₁
    have finds : Finds s (.matchRegex index) ((r.matchAt s.env.text s.start).map fun stop =>
        (stop, .str (Text.between s.env.text s.start stop))) := by
      refine finds_of_consumed ?_ (fun regs furthest => perform_matchRegex found)
      intro stop v matched
      obtain ⟨_, ended, same⟩ := Option.map_eq_some_iff.mp matched
      cases same
      exact Regex.within_of_matchAt ended
    refine concludes_still still ((native_concludes finds emits₁.assembled placed result output
      (.inl boxed)).mono_still ?_)
    rintro _ rfl
    rw [leaf?, compiled, Except.toOption, Option.map_some, leading, Regex.matchAt,
      Text.remainder_eq]
    rcases r.find (String.ofList (Text.following s.env.text s.start)) with
      _ | ⟨_ | start, length⟩ <;> rfl

/-- The code of a number comes out as the rule does. -/
theorem number_concludes [RegexEngine] {kind : NumberKind} (h : number cx kind a = (slot, b))
    (placed : Placed s.program b) (result : s.program.result = slot)
    (output : s.program.output = cx.output) (fixed : FixedType (.number kind) cx.output) :
    s.Concludes (.still (fun out => leaf? s.env s.start (.number kind) = some out) book)
      a.code.size regs s.start := by
  have finds : Finds s (.parseNumber kind) ((Number.scanNumber kind
      (Text.runAt Number.isLiteralChar s.env.text s.start)).map fun found =>
        (s.start + found.1, found.2)) := by
    refine finds_of_consumed ?_ (fun regs furthest => perform_parseNumber)
    intro stop v matched
    obtain ⟨⟨length, w⟩, scanned, same⟩ := Option.map_eq_some_iff.mp matched
    cases same
    rw [Text.runAt_eq_takeWhile] at scanned
    exact Number.within_of_scanNumber scanned
  refine (native_concludes finds h placed result output ?_).mono_still ?_
  · cases kind with
    | integer =>
      refine .inr ⟨fixed _ fun _ => rfl, fun stop v matched => ?_⟩
      obtain ⟨⟨length, w⟩, scanned, same⟩ := Option.map_eq_some_iff.mp matched
      cases same
      exact Number.exists_of_scanNumber_integer scanned
    | float => exact .inl (fixed .float (fun _ => rfl) ▸ ⟨rfl, rfl⟩)
    | any => exact .inl (fixed .number (fun _ => rfl) ▸ ⟨rfl, rfl⟩)
  · rintro _ rfl
    rw [leaf?, Text.runAt_eq_takeWhile]
    rcases Number.scanNumber kind
      ((following s.env.text s.start).takeWhile Number.isLiteralChar) with _ | ⟨length, v⟩ <;> rfl

/-- The code for the object of the caller comes out as the rule does. -/
theorem userObject_concludes [RegexEngine] (h : userObject cx a = (slot, b))
    (placed : Placed s.program b) (result : s.program.result = slot)
    (output : s.program.output = cx.output)
    (boxed : Boxed cx.output) :
    s.Concludes (.still (fun out => leaf? s.env s.start .userObject = some out) book)
      a.code.size regs s.start := by
  have finds : Finds s .userObject (some (s.start, s.env.user)) := by
    refine ⟨?_, ?_, ?_⟩
    · rintro _ _ ⟨⟩
      exact .refl
    · rintro _ _ ⟨⟩ regs furthest
      exact ⟨furthest, perform_userObject⟩
    · intro none
      cases none
  refine (native_concludes finds h placed result output (.inl boxed)).mono_still ?_
  rintro _ rfl
  rfl

/-- A run of the program of a leaf comes out as the leaf says. -/
theorem leaf_concludes [RegexEngine] (sound : s.Sound) {rule : Rule} (leaf : IsLeaf rule)
    (emits : Emits (body cx rule) a slot b) (placed : Placed s.program b)
    (result : s.program.result = slot) (output : s.program.output = cx.output)
    (fixed : FixedType rule cx.output) :
    s.Concludes (.still (fun out => leaf? s.env s.start rule = some out) book)
      a.code.size regs s.start := by
  cases rule with
  | literal text ignoreCase =>
    have output' := output.trans (fixed .text fun _ => rfl)
    simp only [body, literal] at emits
    split at emits
    · exact emits.not_thrown.elim
    · split at emits
      case isTrue ignores =>
        subst ignores
        exact foldedLiteral_concludes sound emits.assembled placed result output'
      case isFalse exact_ =>
        rw [Bool.not_eq_true] at exact_
        subst exact_
        exact exactLiteral_concludes sound emits.assembled placed result output'
  | charRange ranges negated =>
    have output' := output.trans (fixed .char fun _ => rfl)
    simp only [body, charRange] at emits
    split at emits
    · exact emits.not_thrown.elim
    · split at emits
      · exact emits.not_thrown.elim
      · exact charClass_concludes (testRanges_decides s ranges) emits.assembled placed result
          output' ⟨rfl, rfl⟩
  | charSet chars negated =>
    have output' := output.trans (fixed .char fun _ => rfl)
    simp only [body, charSet] at emits
    split at emits
    · exact emits.not_thrown.elim
    · exact charClass_concludes (testChars_decides s chars) emits.assembled placed result output'
        ⟨rfl, rfl⟩
  | regex pattern =>
    have boxed : Boxed cx.output := fixed .text (fun _ => rfl) ▸ ⟨rfl, rfl⟩
    exact regex_concludes emits placed result output boxed
  | number kind => exact number_concludes emits.assembled placed result output fixed
  | whitespace =>
    have output' := output.trans (fixed .void fun _ => rfl)
    exact whitespace_concludes emits.assembled placed result output'
  | eol =>
    have output' := output.trans (fixed .void fun _ => rfl)
    exact eol_concludes emits.assembled placed result output'
  | eoi =>
    have output' := output.trans (fixed .void fun _ => rfl)
    exact eoi_concludes emits.assembled placed result output'
  | userObject =>
    have boxed : Boxed cx.output := fixed .any (fun _ => rfl) ▸ ⟨rfl, rfl⟩
    exact userObject_concludes emits.assembled placed result output boxed
  | location =>
    have output' := output.trans (fixed .int fun _ => rfl)
    exact location_concludes sound emits.assembled placed result output'
  | sequence | alternative | repetition | optional | lookAhead | not | surround | capture =>
    exact leaf.elim

end Packrat.Lowering
