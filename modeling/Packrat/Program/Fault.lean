import Packrat.Grammar.Rule
import Packrat.Value.ObjectModel

/-!
# Engine faults

Broken promises inside the compiler or the machine. A fault is never the outcome of a text that
does not match.

* `EngineFault`: the causes. `program` is the name of the program at fault.
* `EngineFault.message`: their wording.
-/

namespace Packrat

/-- A broken promise inside the compiler or the machine. -/
inductive EngineFault where
  /-- A register number past the program's registers. -/
  | slotOutOfRange (program kind : String) (index size : Nat)
  /-- A program counter past the last instruction. -/
  | pcOutOfBounds (program : String) (pc : Nat)
  /-- A call to a rule whose program is missing. -/
  | unresolvedSubroutine (rule : RuleId)
  /-- A jump to a label that has no place. -/
  | unmarkedLabel (program : String) (label : Nat)
  /-- A label placed twice. -/
  | labelMarkedTwice (program : String) (label : Nat)
  /-- A second program for one matcher. -/
  | placeholderFilledTwice (rule : RuleId)
  /-- Something other than a scalar where a scalar is needed. -/
  | scalarExpected (program found : String)
  /-- A constant of the wrong kind. -/
  | constantKind (program : String) (index : Nat) (expected : String)
  /-- An object that the object model does not make. -/
  | constructFailed (program ty : String)
  /-- A value of the wrong kind. -/
  | valueKind (program expected found : String)
  /-- A position outside the text or inside a character. -/
  | badPosition (program : String) (pos : Int)
  /-- A table with more entries than can be numbered. -/
  | programTooLarge (program table : String)
  /-- A field that the object model does not write. -/
  | slotWrite (error : SlotError)
  deriving Repr, DecidableEq

namespace EngineFault

/-- What is wrong, without the words that all faults start with. -/
def detail : EngineFault → String
  | .slotOutOfRange program kind index size =>
    s!"{kind} slot {index} out of range in `{program}` (size {size})"
  | .pcOutOfBounds program pc => s!"program counter {pc} out of bounds in `{program}`"
  | .unresolvedSubroutine rule => s!"subroutine for rule {rule} was never resolved"
  | .unmarkedLabel program label => s!"label L{label} in `{program}` was never marked"
  | .labelMarkedTwice program label => s!"label L{label} in `{program}` was marked twice"
  | .placeholderFilledTwice rule => s!"matcher for rule {rule} was filled twice"
  | .scalarExpected program found => s!"`{program}` expected a scalar value, found {found}"
  | .constantKind program index expected => s!"constant {index} in `{program}` is not a {expected}"
  | .constructFailed program ty => s!"object model refused to construct `{ty}` in `{program}`"
  | .valueKind program expected found =>
    s!"`{program}` expected a {expected} value, found {found}"
  | .badPosition program pos =>
    s!"position {pos} in `{program}` is not a character boundary of the input"
  | .programTooLarge program table => s!"`{program}` has more than 65535 {table} entries"
  | .slotWrite error => error.message

/-- The wording of a fault. -/
def message (fault : EngineFault) : String :=
  "internal engine fault: " ++ fault.detail

end EngineFault

end Packrat
