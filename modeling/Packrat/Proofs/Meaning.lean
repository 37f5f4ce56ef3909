import Packrat.Lowering.Basic
import Packrat.Machine.State
import Packrat.Number.Literal
import Packrat.Proofs.Text.Boundary
import Packrat.Text.Case

/-!
# The meaning of rules

How a rule comes out at a place, read off the rule itself. Children are not looked into: the
meaning is a program in any monad that says how they come out. In one monad they come out as a
recursion says, in another one as any of several ways.

* `Outcome`: a match with its value and end, a failure, or a fault.
* `Meaning.leaf?`: how rules without children come out.
* `Meaning.parts`, `firstOf`, `rounds`: sequences, alternatives and repetitions.
* `Meaning.rule`: how a rule comes out.
* `Choice`: the monad of any of several ways.
* `Passage`: the same with a state that is handed on.
-/

namespace Packrat

open Lowering (Context)

/-- How a rule comes out at a place. -/
inductive Outcome where
  /-- It matches up to a place, with a value unless it produces none. -/
  | matched (value : Option Value) (stop : Nat)
  /-- It does not match. -/
  | failed
  /-- A promise is broken. -/
  | faulted (fault : EngineFault)

namespace Meaning

/-! ## Leaves -/

/-- One character that satisfies a test, or does not if `negated`. -/
def oneOf (test : Char → Bool) (negated : Bool) (pos : Nat) : List Char → Outcome
  | [] => .failed
  | c :: _ => if test c = negated then .failed else .matched (some (.char c)) (pos + c.utf8Size)

/-- Whether a character lies in one of some ranges. -/
def inRanges (ranges : List (Char × Char)) (c : Char) : Bool :=
  ranges.any fun range => range.1 ≤ c && c ≤ range.2

/-- A text in any case. -/
def foldedText (text : String) (pos : Nat) (rest : List Char) : Outcome :=
  let read := rest.take text.length
  if read.length = text.length ∧ Text.lowerCase (String.ofList read) = Text.lowerCase text then
    .matched (some (.str (String.ofList read))) (pos + Text.width read)
  else .failed

/-- A match of a regular expression at the start of what follows; one further on does not count. -/
def leading (r : Regex) (text : String) (pos : Nat) (rest : List Char) : Outcome :=
  match r.find (String.ofList rest) with
  | some ⟨0, length⟩ => .matched (some (.str (Text.between text pos (pos + length)))) (pos + length)
  | _ => .failed

/-- The characters of layout. -/
def isLayout (c : Char) : Bool :=
  [' ', '\t', '\n', '\r'].contains c

/-- A line end of any kind, or the end of the text. -/
def lineEnd (pos : Nat) : List Char → Outcome
  | [] => .matched none pos
  | '\n' :: _ => .matched none (pos + 1)
  | '\r' :: '\n' :: _ => .matched none (pos + 2)
  | '\r' :: _ => .matched none (pos + 1)
  | _ => .failed

/-- How a rule without children comes out; nothing for other rules, and for a text that is no
regular expression. -/
def leaf? [RegexEngine] (env : Environment) (pos : Nat) : Rule → Option Outcome
  | .literal text ignoreCase =>
    let rest := Text.following env.text pos
    if ignoreCase then some (foldedText text pos rest)
    else if text.toList.isPrefixOf rest then
      some (.matched (some (.str text)) (pos + Text.width text.toList))
    else some .failed
  | .charRange ranges negated =>
    some (oneOf (inRanges ranges) negated pos (Text.following env.text pos))
  | .charSet chars negated =>
    some (oneOf (fun c => chars.contains c) negated pos (Text.following env.text pos))
  | .regex pattern =>
    (RegexEngine.compile (Regex.anchored pattern)).toOption.map fun r =>
      leading r env.text pos (Text.following env.text pos)
  | .number kind =>
    some (match Number.scanNumber kind
        ((Text.following env.text pos).takeWhile Number.isLiteralChar) with
      | some (length, v) => .matched (some v) (pos + length)
      | none => .failed)
  | .whitespace =>
    some (.matched none (pos + Text.width ((Text.following env.text pos).takeWhile isLayout)))
  | .eol => some (lineEnd pos (Text.following env.text pos))
  | .eoi => some (if (Text.following env.text pos).isEmpty then .matched none pos else .failed)
  | .userObject => some (.matched (some env.user) pos)
  | .location => some (.matched (some (.int pos)) pos)
  | _ => none

/-! ## Composite rules -/

section

variable {m : Type → Type} [Monad m]

/-- Go on behind a match; other outcomes stay. -/
def onMatch (act : m Outcome) (go : Option Value → Nat → m Outcome) : m Outcome := do
  match ← act with
  | .matched value stop => go value stop
  | .failed => return .failed
  | .faulted fault => return .faulted fault

/-- The value of a child as the result of a rule with the given type: no value where the type has
none, and `null` where the child has none. -/
def settle (ty : OutputType) (value : Option Value) : Option Value :=
  if ty.isVoid then none else some (value.getD .null)

/-- The value of an absent child. -/
def absent : OutputType → Option Value
  | .void => none
  | .text => some (.str "")
  | .list => some (.list #[])
  | _ => some .null

variable (child : RuleId → Nat → m Outcome)

/-- The separator, if there is one, unless it is to be left out. -/
def separated (separator : Option RuleId) (leaveOut : Bool) (pos : Nat) : m Outcome :=
  match separator, leaveOut with
  | some separator, false => child separator pos
  | _, _ => return .matched none pos

/-- Fields with the value of a part, if the part is named. -/
def written (fields : Fields) (name : Option String) (value : Option Value) : Fields :=
  match name with
  | some name => fields.set name (value.getD .null)
  | none => fields

/-- Parts in order, each behind the separator unless it is the first; the value is an object of
type `ty`, if there is one, with the fields written so far. -/
def parts (ty : Option String) (separator : Option RuleId) :
    (first : Bool) → List Part → Fields → (pos : Nat) → m Outcome
  | _, [], fields, pos => return .matched (ty.map fun ty => .node ty fields) pos
  | first, part :: rest, fields, pos =>
    onMatch (separated child separator first pos) fun _ mid =>
      onMatch (child part.rule mid) fun value stop =>
        parts ty separator false rest (written fields part.name value) stop

/-- The first candidate that does not fail. -/
def firstOf (ty : OutputType) (pos : Nat) : List RuleId → m Outcome
  | [] => return .failed
  | candidate :: rest => do
    match ← child candidate pos with
    | .matched value stop => return .matched (settle ty value) stop
    | .failed => firstOf ty pos rest
    | .faulted fault => return .faulted fault

/-- Nothing gathered yet. -/
def gatheredStart (collect : Collect) (elementType : OutputType) : Option Value :=
  match collect with
  | .text => some (.str "")
  | .list => if elementType.isVoid then none else some (.list #[])

/-- The text that a value adds to a text, if it is one that can be added. -/
def addedText : Value → Option String
  | .str s => some s
  | .char c => some (String.singleton c)
  | _ => none

/-- What is gathered with one more element. Only texts and characters can be gathered as text. -/
def gather (name : String) (collect : Collect) (acc value : Option Value) :
    Except EngineFault (Option Value) :=
  match collect, acc, value with
  | .text, some (.str text), some item =>
    match addedText item with
    | some more => .ok (some (.str (text ++ more)))
    | none => .error (.valueKind name "str" item.typeName)
  | .list, some (.list items), value => .ok (some (.list (items.push (value.getD .null))))
  | _, acc, _ => .ok acc

/-- The end of a repetition, which fails below the least number of elements. -/
def enough (min count : Nat) (acc : Option Value) (pos : Nat) : Outcome :=
  if count < min then .failed else .matched acc pos

/-- Whether a number is the greatest one. -/
def isFull (max : Option Nat) (count : Nat) : Bool :=
  max.any (· ≤ count)

/-- Rounds of a repetition after `count` elements. A round that consumes nothing is the last one,
whatever the least number is. -/
def rounds (name : String) (element : RuleId) (separator : Option RuleId) (min : Nat)
    (max : Option Nat) (collect : Collect) :
    (fuel : Nat) → (count : Nat) → (acc : Option Value) → (pos : Nat) → m Outcome
  | 0, _, _, _ => return .failed
  | fuel + 1, count, acc, pos =>
    if isFull max count then return enough min count acc pos
    else do
      let round := onMatch (separated child separator (count == 0) pos) fun _ mid =>
        child element mid
      match ← round with
      | .failed => return enough min count acc pos
      | .faulted fault => return .faulted fault
      | .matched value stop =>
        match gather name collect acc value with
        | .error fault => return .faulted fault
        | .ok acc =>
          if stop = pos then return .matched acc stop
          else rounds name element separator min max collect fuel (count + 1) acc stop

/-! ## Rules -/

/-- How a rule comes out at a place. A repetition has at most one round for each byte left and one
more. -/
def rule [RegexEngine] (env : Environment) (cx : Context) (pos : Nat) : Rule → m Outcome
  | .sequence ty items separator => parts child ty separator true items #[] pos
  | .alternative _ candidates => firstOf child cx.output pos candidates
  | .repetition element separator min max collect =>
    rounds child cx.name element separator min max collect (env.text.utf8ByteSize - pos + 1) 0
      (gatheredStart collect (cx.grammar.outputOf element)) pos
  | .optional inner => do
    match ← child inner pos with
    | .matched value stop => return .matched (settle cx.output value) stop
    | .failed => return .matched (absent cx.output) pos
    | .faulted fault => return .faulted fault
  | .lookAhead inner => onMatch (child inner pos) fun _ _ => return .matched none pos
  | .not inner => do
    match ← child inner pos with
    | .matched _ _ => return .failed
    | .failed => return .matched none pos
    | .faulted fault => return .faulted fault
  | .surround opening inner closing =>
    onMatch (child opening pos) fun _ start =>
      onMatch (child inner start) fun value stop =>
        onMatch (child (closing.getD opening) stop) fun _ behind =>
          return .matched (settle cx.output value) behind
  | .capture inner =>
    onMatch (child inner pos) fun _ stop =>
      return .matched (some (.str (Text.between env.text pos stop))) stop
  | leaf => return (leaf? env pos leaf).getD .failed

end

end Meaning

/-! ## Any of several ways -/

/-- A property of the ways something may come out. -/
def Choice (α : Type) : Type := α → Prop

instance : Monad Choice where
  pure a := fun b => b = a
  bind act go := fun b => ∃ a, act a ∧ go a b

/-! ## Any of several ways, with a state -/

/-- The ways something may come out from a state, each with the state that it leads to. -/
def Passage (σ α : Type) : Type := σ → α → σ → Prop

instance {σ : Type} : Monad (Passage σ) where
  pure a := fun s b s' => b = a ∧ s' = s
  bind act go := fun s b s'' => ∃ a s', act s a s' ∧ go a s' b s''

section

variable {σ : Type} {s s' s'' : σ} {act : Passage σ Outcome}
  {go : Option Value → Nat → Passage σ Outcome}

/-- Behind a match there are the ways to go on. -/
theorem Meaning.onMatch_matched {value : Option Value} {stop : Nat} {out : Outcome}
    (first : act s (.matched value stop) s') (second : go value stop s' out s'') :
    onMatch act go s out s'' :=
  ⟨.matched value stop, s', first, second⟩

/-- A failure stays. -/
theorem Meaning.onMatch_failed (first : act s .failed s') : onMatch act go s .failed s' :=
  ⟨.failed, s', first, rfl, rfl⟩

/-- A fault stays. -/
theorem Meaning.onMatch_faulted {fault : EngineFault} (first : act s (.faulted fault) s') :
    onMatch act go s (.faulted fault) s' :=
  ⟨.faulted fault, s', first, rfl, rfl⟩

end

end Packrat
