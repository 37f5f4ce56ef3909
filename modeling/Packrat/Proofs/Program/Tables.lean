import Packrat.Proofs.Lowering.Stage
import Packrat.Proofs.Program.Directive

/-!
# Tables of finished programs

Registers, constants and callees are numbered as they are asked for, equal values and calls of one
rule once. There are 65536 numbers. A table that needs another one is filled all the same, and the
entries that have no number share the last one; but then the program is not finished. So in a
finished program no number stands for two things.

* `Answer.slot?`, `Directive.registered`: the registers handed out and the callees registered.
* `Entries`: the entries that a sequence of directives asks for, however many there are.
* `Assembler.Has`: the tables of a stage have these entries.

Main statement: `finish_tables`.
-/

namespace Packrat

open Assemble Machine

/-! ## What directives ask for -/

/-- The register in an answer. -/
def Answer.slot? : Answer → Option Slot
  | .slot r => some r
  | _ => none

/-- The rule that a directive calls, and the matcher it gives for it. -/
def Directive.registered : Directive → Option Callee
  | .callee rule handle | .call rule handle _ _ _ => some ⟨rule, handle⟩
  | _ => none

/-- The first matcher that is given for a rule. -/
def firstRegistered (rule : RuleId) (ds : List Directive) : Option Callee :=
  (ds.filterMap Directive.registered).find? fun c => c.rule = rule

/-- The entries of tables. -/
structure Entries where
  /-- How many integer registers there are. -/
  ints : Nat
  /-- How many object registers there are. -/
  objs : Nat
  /-- The constants. -/
  consts : List Constant
  /-- The rules called. -/
  callees : List RuleId

namespace Entries

/-- An integer register more. -/
def addInt (e : Entries) : Entries := { e with ints := e.ints + 1 }

/-- An object register more. -/
def addObj (e : Entries) : Entries := { e with objs := e.objs + 1 }

/-- A value more, unless there is one that equals it. -/
def addValue (e : Entries) (v : Value) : Entries :=
  if e.consts.any (isValue v) then e else { e with consts := e.consts ++ [.value v] }

/-- A regular expression more. -/
def addRegex (e : Entries) (r : Regex) : Entries :=
  { e with consts := e.consts ++ [.regex r] }

/-- A rule more, unless it is there. -/
def addCallee (e : Entries) (rule : RuleId) : Entries :=
  if rule ∈ e.callees then e else { e with callees := e.callees ++ [rule] }

/-- The entries after a directive. -/
def add (e : Entries) : Directive → Entries
  | .intSlot | .savePos => e.addInt
  | .objSlot => e.addObj
  | .slotFor ty => if ty.isVoid then e else if ty.isScalar then e.addInt else e.addObj
  | .valueConst v | .loadValue _ v => e.addValue v
  | .regexConst r => e.addRegex r
  | .callee rule _ | .call rule _ _ _ _ => e.addCallee rule
  | _ => e

end Entries

/-- The entries that a sequence of directives asks for. -/
def entries (ds : List Directive) : Entries :=
  ds.foldl Entries.add ⟨0, 0, [], []⟩

/-! ## The tables of a stage -/

namespace Assembler

/-- The tables of the stage have these entries. -/
structure Has (a : Assembler) (e : Entries) : Prop where
  ints : a.intSlots = e.ints
  objs : a.objSlots = e.objs
  consts : a.consts.toList = e.consts
  callees : a.callees.size = e.callees.length
  known : ∀ rule : RuleId, a.calleeOf[rule]? = none ↔ rule ∉ e.callees

/-- The tables have no more entries than there are numbers. -/
structure Numbered (a : Assembler) : Prop where
  consts : a.consts.size ≤ maxIndex + 1
  callees : a.callees.size ≤ maxIndex + 1

variable {a : Assembler} {e : Entries}

/-- Numbering an entry changes no table. -/
theorem number_snd (a : Assembler) (i : Nat) (table : String) :
    ∃ fault, (a.number i table).2 = { a with fault } := by
  unfold number
  split
  · exact ⟨a.fault, rfl⟩
  · exact ⟨_, rfl⟩

/-- Giving out a number adds no entry. -/
theorem Has.number (has : a.Has e) (i : Nat) (table : String) : (a.number i table).2.Has e := by
  obtain ⟨fault, same⟩ := number_snd a i table
  rw [same]
  exact ⟨has.ints, has.objs, has.consts, has.callees, has.known⟩

/-- Giving out an integer register adds one. -/
theorem Has.intSlot (has : a.Has e) : (intSlot a).2.Has e.addInt where
  ints := congrArg Nat.succ (has.number _ _).ints
  objs := (has.number _ _).objs
  consts := (has.number _ _).consts
  callees := (has.number _ _).callees
  known := (has.number _ _).known

/-- Giving out an object register adds one. -/
theorem Has.objSlot (has : a.Has e) : (objSlot a).2.Has e.addObj where
  ints := (has.number _ _).ints
  objs := congrArg Nat.succ (has.number _ _).objs
  consts := (has.number _ _).consts
  callees := (has.number _ _).callees
  known := (has.number _ _).known

/-- A constant that is added to the pool changes no other entry. -/
theorem Has.pushConst (has : a.Has e) (c : Constant) :
    Has { a with consts := a.consts.push c } { e with consts := e.consts ++ [c] } :=
  ⟨has.ints, has.objs, by simp [has.consts], has.callees, has.known⟩

/-- A rule that has no entry gets one. -/
theorem Has.pushCallee (has : a.Has e) (c : Callee) (i : CalleeIndex) :
    Has { a with callees := a.callees.push c, calleeOf := a.calleeOf.insert c.rule i }
      { e with callees := e.callees ++ [c.rule] } := by
  refine ⟨has.ints, has.objs, has.consts, by simp [has.callees], fun other => ?_⟩
  dsimp only
  rw [Std.HashMap.getElem?_insert, List.mem_append, List.mem_singleton]
  split
  case isTrue same => simp [eq_of_beq same]
  case isFalse differs =>
    rw [has.known other, or_iff_left]
    rintro rfl
    exact differs BEq.rfl

/-- An instruction changes no entry. -/
theorem Has.pushCode (has : a.Has e) (i : Instruction) :
    Has { a with code := a.code.push i } e :=
  ⟨has.ints, has.objs, has.consts, has.callees, has.known⟩

/-- Pooling a value adds it if it is not there. -/
theorem Has.valueConst (has : a.Has e) (v : Value) : (valueConst v a).2.Has (e.addValue v) := by
  have found : (a.consts.findIdx? (isValue v)).isSome = e.consts.any (isValue v) := by
    rw [← has.consts, Array.any_toList, Array.findIdx?_isSome]
  simp only [Assemble.valueConst, modifyGet, MonadStateOf.modifyGet, StateT.modifyGet,
    Entries.addValue, ← found]
  cases a.consts.findIdx? (isValue v) with
  | some i => exact has.number i "constant"
  | none => exact (has.number a.consts.size "constant").pushConst (.value v)

/-- Pooling a pattern always adds it. -/
theorem Has.regexConst (has : a.Has e) (r : Regex) : (regexConst r a).2.Has (e.addRegex r) :=
  (has.number a.consts.size "constant").pushConst (.regex r)

/-- Registering a callee adds it if its rule is not there. -/
theorem Has.callee (has : a.Has e) (rule : RuleId) (handle : Option Handle) :
    (callee rule handle a).2.Has (e.addCallee rule) := by
  simp only [Assemble.callee, modifyGet, MonadStateOf.modifyGet, StateT.modifyGet,
    Entries.addCallee]
  cases known : a.calleeOf[rule]? with
  | some i =>
    rw [if_pos]
    · exact has
    · by_contra unknown
      rw [(has.known rule).mpr unknown] at known
      cases known
  | none =>
    rw [if_neg ((has.known rule).mp known)]
    exact (has.number a.callees.size "callee").pushCallee ⟨rule, handle⟩ _

/-- A directive leaves the entries that it asks for. -/
theorem Has.obey (has : a.Has e) (d : Directive) : (d.obey a).2.Has (e.add d) := by
  cases d with
  | intSlot => exact has.intSlot
  | objSlot => exact has.objSlot
  | slotFor ty =>
    change (Assemble.slotFor ty a).2.Has
      (if ty.isVoid then e else if ty.isScalar then e.addInt else e.addObj)
    unfold Assemble.slotFor
    split
    · exact has
    · split
      · exact has.intSlot
      · exact has.objSlot
  | newLabel => exact ⟨has.ints, has.objs, has.consts, has.callees, has.known⟩
  | mark label =>
    change (mark label a).2.Has e
    rw [mark_eq]
    dsimp only
    split <;> exact ⟨has.ints, has.objs, has.consts, has.callees, has.known⟩
  | valueConst v => exact has.valueConst v
  | regexConst r => exact has.regexConst r
  | callee rule handle => exact has.callee rule handle
  | savePos => exact has.intSlot.pushCode _
  | loadValue dst v => exact (has.valueConst v).pushCode _
  | call rule handle name dst onFail => exact (has.callee rule handle).pushCode _
  | _ => exact has.pushCode _

/-! ## Numbers of entries -/

/-- Without a fault, an entry that is asked for has a number of its own. -/
theorem le_of_number {i : Nat} {table : String} (sound : (a.number i table).2.fault = none) :
    i ≤ maxIndex := by
  unfold Assembler.number at sound
  split at sound
  · assumption
  · exact absurd sound (blame_fault a _)

/-- The second stage is a later one, and if there is no fault its tables have no more entries than
there are numbers. -/
structure Slim (a b : Assembler) : Prop where
  later : Extends a b
  numbered : b.fault = none → a.Numbered → b.Numbered

/-- Giving out a number adds nothing to the tables. -/
theorem slim_number (a : Assembler) (i : Nat) (table : String) : Slim a (a.number i table).2 := by
  refine ⟨extends_number a i table, fun _ numbered => ?_⟩
  obtain ⟨fault, same⟩ := number_snd a i table
  rw [same]
  exact ⟨numbered.consts, numbered.callees⟩

/-- A constant with a number of its own. -/
theorem Numbered.pushConst {c : Constant} {table : String}
    (sound : (a.number a.consts.size table).2.fault = none) (numbered : a.Numbered) :
    Numbered { (a.number a.consts.size table).2 with
      consts := (a.number a.consts.size table).2.consts.push c } := by
  have le := le_of_number sound
  obtain ⟨fault, same⟩ := number_snd a a.consts.size table
  rw [same]
  exact ⟨by rw [Array.size_push]; exact Nat.succ_le_succ le, numbered.callees⟩

/-- Basic actions keep the entries numbered. -/
@[reducible] def slim : StageRelation where
  Rel := Slim
  refl a := ⟨.refl a, fun _ => id⟩
  trans _ _ _ first second := ⟨first.later.trans second.later, fun sound numbered =>
    second.numbered sound (first.numbered (second.later.fault sound) numbered)⟩
  intSlot a := ⟨later.intSlot a, fun sound numbered =>
    have slim := (slim_number a a.intSlots "int slot").numbered sound numbered
    ⟨slim.consts, slim.callees⟩⟩
  objSlot a := ⟨later.objSlot a, fun sound numbered =>
    have slim := (slim_number a a.objSlots "object slot").numbered sound numbered
    ⟨slim.consts, slim.callees⟩⟩
  newLabel a := ⟨later.newLabel a, fun _ numbered => ⟨numbered.consts, numbered.callees⟩⟩
  mark label a := by
    refine ⟨later.mark label a, fun _ numbered => ?_⟩
    rw [mark_eq]
    dsimp only
    split <;> exact ⟨numbered.consts, numbered.callees⟩
  valueConst v a := by
    refine ⟨later.valueConst v a, fun sound numbered => ?_⟩
    simp only [Assemble.valueConst, modifyGet, MonadStateOf.modifyGet, StateT.modifyGet]
      at sound ⊢
    split at sound
    · exact (slim_number a _ _).numbered sound numbered
    · exact numbered.pushConst sound
  regexConst r a := ⟨later.regexConst r a, fun sound numbered =>
    numbered.pushConst sound⟩
  emit i a := ⟨later.emit i a, fun _ numbered => ⟨numbered.consts, numbered.callees⟩⟩

section

variable {γ : Type} {seen : γ}

instance {rule : RuleId} {handle : Option Handle} :
    Leads slim seen (Assemble.callee rule handle) where
  leads a := by
    refine ⟨Leads.leads (R := later) () (m := Assemble.callee rule handle) a,
      fun sound numbered => ?_⟩
    simp only [Assemble.callee, modifyGet, MonadStateOf.modifyGet, StateT.modifyGet] at sound ⊢
    split at sound
    · exact numbered
    · have le := le_of_number sound
      have slim := (slim_number a a.callees.size "callee").numbered sound numbered
      have same := Lowering.sameCallees_number a a.callees.size "callee"
      refine ⟨slim.consts, ?_⟩
      change ((a.number a.callees.size "callee").2.callees.push _).size ≤ _
      rw [Array.size_push, same]
      exact Nat.succ_le_succ le

instance {rule : RuleId} {handle : Option Handle} {name : Option String} {dst : Option Slot}
    {onFail : Label} : Leads slim seen (Assemble.call rule handle name dst onFail) := by
  unfold Assemble.call
  infer_instance

instance {d : Directive} : Leads slim seen d.obey := by
  cases d <;> (unfold Directive.obey; infer_instance)

end

end Assembler

section

variable {rule : RuleId} {name : String} {ds : List Directive}

/-- The tables have the entries that were asked for, whether there are numbers for them or not. -/
theorem has_stageAfter : (stageAfter rule name ds).Has (entries ds) := by
  induction ds using List.reverseRecOn with
  | nil => exact ⟨rfl, rfl, rfl, rfl, fun _ => iff_of_true Std.HashMap.getElem?_empty nofun⟩
  | append_singleton ds d ih =>
    rw [stageAfter_snoc, entries, List.foldl_append]
    exact ih.obey d

/-- Without a fault every entry has a number of its own. -/
theorem numbered_stageAfter (sound : (stageAfter rule name ds).fault = none) :
    (stageAfter rule name ds).Numbered := by
  induction ds using List.reverseRecOn with
  | nil => exact ⟨Nat.zero_le _, Nat.zero_le _⟩
  | append_singleton ds d ih =>
    have earlier := (stageAfter_extends [d]).fault sound
    rw [stageAfter_snoc] at sound ⊢
    exact (Leads.leads (R := Assembler.slim) () (m := d.obey) _).numbered sound (ih earlier)

/-! ## Registers -/

/-- The register is in use. -/
def Assembler.Inside (a : Assembler) : Slot → Prop
  | .int r => r.index < a.intSlots
  | .obj r => r.index < a.objSlots

/-- A register stays inside of every later assembler. -/
theorem Assembler.Inside.mono {a b : Assembler} {slot : Slot} (inside : a.Inside slot)
    (later : a.Extends b) : b.Inside slot := by
  cases slot with
  | int r => exact Nat.lt_of_lt_of_le inside later.intSlots
  | obj r => exact Nat.lt_of_lt_of_le inside later.objSlots

/-- The registers that were handed out. -/
def slotsOf (told : List (Directive × Answer)) : List Slot :=
  told.filterMap fun answered => answered.2.slot?

section

variable {q : Program} {a b : Assembler}

/-- A fresh integer register is inside after it was given out and not before. -/
theorem FreshInt.between {r : IntSlot} (fresh : FreshInt q a r b) :
    ¬a.Inside (.int r) ∧ b.Inside (.int r) := by
  obtain ⟨index, ints, -, -⟩ := fresh
  change ¬r.index < a.intSlots ∧ r.index < b.intSlots
  omega

/-- A fresh object register is inside after it was given out and not before. -/
theorem FreshObj.between {r : ObjSlot} (fresh : FreshObj q a r b) :
    ¬a.Inside (.obj r) ∧ b.Inside (.obj r) := by
  obtain ⟨index, objs, -, -⟩ := fresh
  change ¬r.index < a.objSlots ∧ r.index < b.objSlots
  omega

/-- A register that is handed out was not in use. -/
theorem slot_fresh {d : Directive} {answer : Answer} {slot : Slot}
    (obeyed : d.obey a = (answer, b)) (handed : answer.slot? = some slot) (placed : Placed q b) :
    ¬a.Inside slot ∧ b.Inside slot := by
  cases d with
  | intSlot =>
    obtain ⟨r, c, made, rest, placed⟩ := assemble_split obeyed placed
    cases rest
    cases handed
    exact (intSlot_fresh made placed).1.between
  | objSlot =>
    obtain ⟨r, c, made, rest, placed⟩ := assemble_split obeyed placed
    cases rest
    cases handed
    exact (objSlot_fresh made placed).1.between
  | savePos =>
    obtain ⟨r, c, made, rest, placed⟩ := assemble_split obeyed placed
    cases rest
    cases handed
    exact (Lowering.savePos_fresh made placed).between
  | slotFor ty =>
    obtain ⟨dst, c, made, rest, placed⟩ := assemble_split obeyed placed
    cases rest
    obtain ⟨fresh, -⟩ := slotFor_fresh made placed
    cases fresh with
    | void => cases handed
    | int _ fresh => cases handed; exact fresh.between
    | obj _ fresh => cases handed; exact fresh.between
  | _ => cases obeyed; cases handed

end

/-- The registers handed out differ from each other, and they are in use. -/
theorem slots_distinct {q : Program} (placed : Placed q (stageAfter rule name ds)) :
    (slotsOf (toldBy rule name ds)).Nodup ∧
      ∀ slot ∈ slotsOf (toldBy rule name ds), (stageAfter rule name ds).Inside slot := by
  induction ds using List.reverseRecOn with
  | nil => exact ⟨.nil, nofun⟩
  | append_singleton ds d ih =>
    have later : (stageAfter rule name ds).Extends (stageAfter rule name (ds ++ [d])) :=
      stageAfter_extends [d]
    obtain ⟨distinct, inside⟩ := ih (placed.of_extends later)
    have told : slotsOf (toldBy rule name (ds ++ [d])) = slotsOf (toldBy rule name ds) ++
        (d.obey (stageAfter rule name ds)).1.slot?.toList := by
      rw [toldBy_snoc, slotsOf, List.filterMap_append]
      cases (d.obey (stageAfter rule name ds)).1 <;> rfl
    rw [told]
    cases handed : (d.obey (stageAfter rule name ds)).1.slot? with
    | none =>
      rw [Option.toList_none, List.append_nil]
      exact ⟨distinct, fun slot member => (inside slot member).mono later⟩
    | some slot =>
      have obeyed : d.obey (stageAfter rule name ds) =
          ((d.obey (stageAfter rule name ds)).1, stageAfter rule name (ds ++ [d])) :=
        Prod.ext rfl stageAfter_snoc.symm
      obtain ⟨unused, used⟩ := slot_fresh obeyed handed placed
      rw [Option.toList_some, List.nodup_append]
      refine ⟨⟨distinct, List.pairwise_singleton _ slot, fun other member last same => ?_⟩,
        fun other member => ?_⟩
      · rintro rfl
        exact unused (List.mem_singleton.mp same ▸ inside other member)
      · rcases List.mem_append.mp member with member | member
        · exact (inside other member).mono later
        · exact List.mem_singleton.mp member ▸ used

/-! ## Callees -/

/-- Both stages have the same table of callees. -/
structure SameTable (a b : Assembler) : Prop where
  callees : b.callees = a.callees
  calleeOf : b.calleeOf = a.calleeOf

/-- Giving out a number leaves the callee table as it is. -/
theorem sameTable_number (a : Assembler) (i : Nat) (table : String) :
    SameTable a (a.number i table).2 := by
  obtain ⟨fault, same⟩ := Assembler.number_snd a i table
  rw [same]
  exact ⟨rfl, rfl⟩

/-- Only directives that call something change the table of callees. -/
@[reducible] def sameTable : StageRelation where
  Rel := SameTable
  refl _ := ⟨rfl, rfl⟩
  trans _ _ _ first second :=
    ⟨second.callees.trans first.callees, second.calleeOf.trans first.calleeOf⟩
  intSlot a := ⟨(sameTable_number a _ _).callees, (sameTable_number a _ _).calleeOf⟩
  objSlot a := ⟨(sameTable_number a _ _).callees, (sameTable_number a _ _).calleeOf⟩
  newLabel _ := ⟨rfl, rfl⟩
  mark label a := by
    rw [mark_eq]
    dsimp only
    split <;> exact ⟨rfl, rfl⟩
  valueConst v a := by
    simp only [valueConst, modifyGet, MonadStateOf.modifyGet, StateT.modifyGet]
    split
    · exact sameTable_number a _ _
    · exact ⟨(sameTable_number a _ _).callees, (sameTable_number a _ _).calleeOf⟩
  regexConst r a := ⟨(sameTable_number a _ _).callees, (sameTable_number a _ _).calleeOf⟩
  emit _ _ := ⟨rfl, rfl⟩

/-- A directive leaves the table of callees as it is, or as a callee leaves it. -/
theorem sameTable_obey (d : Directive) (a : Assembler) : match d.registered with
    | none => SameTable a (d.obey a).2
    | some c => SameTable (callee c.rule c.handle a).2 (d.obey a).2 ∧
        (d.obey a).2.fault = (callee c.rule c.handle a).2.fault := by
  cases d with
  | callee rule handle => exact ⟨⟨rfl, rfl⟩, rfl⟩
  | call rule handle name dst onFail => exact ⟨⟨rfl, rfl⟩, rfl⟩
  | _ =>
    change SameTable a (Directive.obey _ a).2
    unfold Directive.obey
    exact Leads.leads (R := sameTable) () a

/-- The last directive registers a rule only if none before it does. -/
theorem firstRegistered_snoc {called : RuleId} {d : Directive} :
    firstRegistered called (ds ++ [d]) =
      (firstRegistered called ds).or (d.registered.filter fun c => c.rule = called) := by
  rw [firstRegistered, List.filterMap_append, List.find?_append, ← firstRegistered,
    List.filterMap_cons]
  cases d.registered with
  | none => rfl
  | some c => by_cases same : c.rule = called <;> simp [same, Option.filter]

/-- A rule that has an index is given it again. -/
theorem callee_of_known {a : Assembler} {called : RuleId} {i : CalleeIndex}
    (known : a.calleeOf[called]? = some i) (handle : Option Handle) :
    callee called handle a = (i, a) := by
  simp only [callee, modifyGet, MonadStateOf.modifyGet, StateT.modifyGet, known]
  rfl

/-- Without a fault a rule that has no entry gets one with a number of its own. -/
theorem callee_of_unknown {a : Assembler} {called : RuleId} {handle : Option Handle}
    (unknown : a.calleeOf[called]? = none) (sound : (callee called handle a).2.fault = none) :
    (callee called handle a).2 = { a with
      callees := a.callees.push ⟨called, handle⟩
      calleeOf := a.calleeOf.insert called ⟨a.callees.size⟩ } := by
  simp only [callee, modifyGet, MonadStateOf.modifyGet, StateT.modifyGet, unknown] at sound ⊢
  generalize numbered : a.number a.callees.size "callee" = result at sound ⊢
  obtain ⟨j, a'⟩ := result
  obtain ⟨rfl, rfl⟩ := Assembler.number_eq numbered sound
  rfl

/-- The rule that is registered has the first entry for it, other rules have theirs. -/
theorem callee_first {a : Assembler} {c : Callee} {first : RuleId → Option Callee}
    (sound : (callee c.rule c.handle a).2.fault = none)
    (before : ∀ called : RuleId, (a.calleeOf[called]? = none → first called = none) ∧
      ∀ i, a.calleeOf[called]? = some i → ∃ entry, first called = some entry ∧
        a.callees[i.index]? = some entry) (called : RuleId) :
    ((callee c.rule c.handle a).2.calleeOf[called]? = none →
      (first called).or (if c.rule = called then some c else none) = none) ∧
    ∀ i, (callee c.rule c.handle a).2.calleeOf[called]? = some i → ∃ entry,
      (first called).or (if c.rule = called then some c else none) = some entry ∧
        (callee c.rule c.handle a).2.callees[i.index]? = some entry := by
  obtain ⟨unknown, known⟩ := before called
  cases entry : a.calleeOf[c.rule]? with
  | some j =>
    rw [callee_of_known entry]
    by_cases same : c.rule = called
    · subst same
      obtain ⟨e, there, found⟩ := known j entry
      refine ⟨fun missing => ?_, fun i here => ?_⟩
      · cases entry.symm.trans missing
      · cases entry.symm.trans here
        exact ⟨e, by rw [there, Option.some_or], found⟩
    · rw [if_neg same, Option.or_none]
      exact ⟨unknown, known⟩
  | none =>
    rw [callee_of_unknown entry sound]
    dsimp only
    rw [Std.HashMap.getElem?_insert]
    by_cases same : c.rule = called
    · subst same
      rw [if_pos BEq.rfl, if_pos rfl, unknown entry]
      refine ⟨nofun, fun i here => ?_⟩
      cases here
      exact ⟨c, rfl, Array.getElem?_push_size⟩
    · rw [if_neg (fun equal => same (eq_of_beq equal)), if_neg same, Option.or_none]
      refine ⟨unknown, fun i here => ?_⟩
      obtain ⟨e, there, found⟩ := known i here
      exact ⟨e, there, getElem?_push_of_some found⟩

/-- The entry of a rule in the table of callees is the first one that was registered for it. -/
theorem calleeOf_first (sound : (stageAfter rule name ds).fault = none) (called : RuleId) :
    ((stageAfter rule name ds).calleeOf[called]? = none → firstRegistered called ds = none) ∧
      ∀ i, (stageAfter rule name ds).calleeOf[called]? = some i →
        ∃ c, firstRegistered called ds = some c ∧
          (stageAfter rule name ds).callees[i.index]? = some c := by
  induction ds using List.reverseRecOn generalizing called with
  | nil =>
    refine ⟨fun _ => rfl, fun i known => ?_⟩
    cases known.symm.trans Std.HashMap.getElem?_empty
  | append_singleton ds d ih =>
    have ih := ih ((stageAfter_extends [d]).fault sound)
    rw [stageAfter_snoc] at sound ⊢
    rw [firstRegistered_snoc]
    have table := sameTable_obey d (stageAfter rule name ds)
    generalize stageAfter rule name ds = a at ih sound table ⊢
    cases registers : d.registered with
    | none =>
      rw [registers] at table
      rw [table.callees, table.calleeOf, Option.filter_none, Option.or_none]
      exact ih called
    | some c =>
      rw [registers] at table
      obtain ⟨⟨callees, calleeOf⟩, fault⟩ := table
      rw [callees, calleeOf, Option.filter_some]
      simpa only [decide_eq_true_eq] using callee_first (fault ▸ sound) ih called

/-! ## Finished programs -/

variable {output : OutputType} {result : Option Slot} {concrete traced : Bool} {p : Program}

/-- The answer to a callee is its entry. -/
theorem callee_answer {a b : Assembler} {called : RuleId} {handle : Option Handle}
    {i : CalleeIndex} (answered : callee called handle a = (i, b)) :
    b.calleeOf[called]? = some i := by
  cases known : a.calleeOf[called]? with
  | some j =>
    rw [callee_of_known known] at answered
    cases answered
    exact known
  | none =>
    simp only [callee, modifyGet, MonadStateOf.modifyGet, StateT.modifyGet, known] at answered
    cases answered
    exact Std.HashMap.getElem?_insert_self

/-- A finished program has numbers for all entries that were asked for. -/
theorem entries_of_finish
    (finished : (stageAfter rule name ds).finish output result concrete traced = .ok p) :
    (entries ds).ints ≤ 65535 ∧ (entries ds).objs ≤ 65535 ∧
      (entries ds).consts.length ≤ 65536 ∧ (entries ds).callees.length ≤ 65536 := by
  obtain ⟨sound, ints, objs, -, -⟩ := Lowering.finishes_of_finish finished
  obtain ⟨consts, callees⟩ := numbered_stageAfter sound
  have has : (stageAfter rule name ds).Has (entries ds) := has_stageAfter
  rw [← has.ints, ← has.objs, ← has.consts, ← has.callees, Array.length_toList]
  exact ⟨ints, objs, consts, callees⟩

/-- In a finished program no number stands for two things, whatever the directives were: the
registers handed out differ from each other and are registers of the program; the number of a value
constant is that of the value, or of one that equals it; the number of a regular expression is that
of the expression; and the number of a callee is that of the first matcher registered for its rule.
Directives that ask for more entries than there are numbers end in a fault. -/
theorem finish_tables (rule : RuleId) (name : String) (ds : List Directive) (output : OutputType)
    (result : Option Slot) (concrete traced : Bool) :
    (∀ p, (stageAfter rule name ds).finish output result concrete traced = .ok p →
      (slotsOf (toldBy rule name ds)).Nodup ∧
      (∀ slot ∈ slotsOf (toldBy rule name ds), SlotInside p (some slot)) ∧
      (∀ v i, (.valueConst v, .const i) ∈ toldBy rule name ds →
        ∃ w, p.valueConst i = .ok w ∧ (w = v ∨ (w == v) = true)) ∧
      (∀ r i, (.regexConst r, .const i) ∈ toldBy rule name ds → p.regexConst i = .ok r) ∧
      ∀ called handle i, (.callee called handle, .callee i) ∈ toldBy rule name ds →
        ∃ first, firstRegistered called ds = some first ∧ p.callees[i.index]? = some first) ∧
    (65535 < (entries ds).ints ∨ 65535 < (entries ds).objs ∨
        65536 < (entries ds).consts.length ∨ 65536 < (entries ds).callees.length →
      ∃ fault, (stageAfter rule name ds).finish output result concrete traced = .error fault) := by
  refine ⟨fun p finished => ?_, fun tooMany => ?_⟩
  · have placed := placed_of_finish finished
    obtain ⟨sound, same⟩ := Lowering.finish_eq finished
    obtain ⟨distinct, inside⟩ := slots_distinct placed
    refine ⟨distinct, fun slot member => ?_, fun v i told => ?_, fun r i told => ?_,
      fun called handle i told => ?_⟩
    · have inside := inside slot member
      subst same
      cases slot <;> exact inside
    · obtain ⟨before, after, rfl, obeyed⟩ := mem_toldBy told
      obtain ⟨j, c, made, rest, placed⟩ := assemble_split obeyed (placed_between finished)
      cases rest
      obtain ⟨⟨w, there, equal⟩, -⟩ := valueConst_found made placed
      have there : p.consts[i.index]? = some (.value w) := there
      exact ⟨w, by rw [Program.valueConst, there], equal⟩
    · obtain ⟨before, after, rfl, obeyed⟩ := mem_toldBy told
      obtain ⟨j, c, made, rest, placed⟩ := assemble_split obeyed (placed_between finished)
      cases rest
      obtain ⟨there, -⟩ := regexConst_found made placed
      have there : p.consts[i.index]? = some (.regex r) := there
      rw [Program.regexConst, there]
    · obtain ⟨before, after, rfl, obeyed⟩ := mem_toldBy told
      obtain ⟨j, c, made, rest, -⟩ := assemble_split obeyed (placed_between finished)
      cases rest
      obtain ⟨first, registered, there⟩ := (calleeOf_first sound called).2 i
        (extends_between.calleeOf called i (callee_answer made))
      exact ⟨first, registered, by rw [same]; exact there⟩
  · cases finished : (stageAfter rule name ds).finish output result concrete traced with
    | error fault => exact ⟨fault, rfl⟩
    | ok p =>
      have enough := entries_of_finish finished
      omega

/-- Two registers, two equal constants, and a rule that is called with two matchers. -/
def sharedEntries : List Directive :=
  [.intSlot, .slotFor .int, .valueConst (.int 3), .valueConst (.int 3), .callee ⟨1⟩ none,
    .callee ⟨1⟩ (some ⟨7⟩), .ret true]

/-- What a row of directives with a shared constant and a shared callee comes to. -/
theorem shared_obeyed : obeyAll sharedEntries (.start ⟨0⟩ "P") =
    ([(.intSlot, .slot (.int ⟨0⟩)), (.slotFor .int, .slot (.int ⟨1⟩)),
      (.valueConst (.int 3), .const ⟨0⟩), (.valueConst (.int 3), .const ⟨0⟩),
      (.callee ⟨1⟩ none, .callee ⟨0⟩), (.callee ⟨1⟩ (some ⟨7⟩), .callee ⟨0⟩),
      (.ret true, .nothing)],
    ⟨"P", ⟨0⟩, #[.ret true], #[], 2, 0, #[.value (.int 3)], #[⟨⟨1⟩, none⟩],
      (∅ : Std.HashMap RuleId CalleeIndex).insert ⟨1⟩ ⟨0⟩, none⟩) := by
  have equal : isValue (.int 3) (.value (.int 3)) = true := rfl
  simp [equal, sharedEntries, obeyAll, Directive.obey, Assembler.start, Assembler.number,
    Assembler.maxIndex, intSlot, slotFor, valueConst, callee, ret, emit, modify, modifyGet,
    MonadStateOf.modifyGet, StateT.modifyGet, bind, StateT.bind, pure, StateT.pure,
    OutputType.isVoid, OutputType.isScalar]

/-- Equal constants have one number, and so have calls of one rule, whose first matcher stays. -/
theorem finish_tables_shared : ∃ p : Program,
    (stageAfter ⟨0⟩ "P" sharedEntries).finish .void none true true = .ok p ∧
      slotsOf (toldBy ⟨0⟩ "P" sharedEntries) = [.int ⟨0⟩, .int ⟨1⟩] ∧
      (slotsOf (toldBy ⟨0⟩ "P" sharedEntries)).Nodup ∧
      (∃ w, p.valueConst ⟨0⟩ = .ok w ∧ (w = .int 3 ∨ (w == .int 3) = true)) ∧
      p.callees[0]? = some ⟨⟨1⟩, none⟩ := by
  have told : toldBy ⟨0⟩ "P" sharedEntries = _ := congrArg Prod.fst shared_obeyed
  have finished : (stageAfter ⟨0⟩ "P" sharedEntries).finish .void none true true =
      .ok ⟨"P", ⟨0⟩, #[.ret true], #[], 2, 0, #[.value (.int 3)], #[⟨⟨1⟩, none⟩], .void, none,
        true, true, .none⟩ := by
    rw [stageAfter, shared_obeyed]
    rfl
  obtain ⟨distinct, -, consts, -, callees⟩ :=
    (finish_tables ⟨0⟩ "P" sharedEntries .void none true true).1 _ finished
  refine ⟨_, finished, by rw [told]; rfl, distinct, consts (.int 3) ⟨0⟩ (by simp [told]), ?_⟩
  obtain ⟨first, registered, there⟩ := callees ⟨1⟩ (some ⟨7⟩) ⟨0⟩ (by simp [told])
  cases registered
  exact there

end

end Packrat
