import Packrat.Outer.Interchange.Tagged
import Packrat.Outer.Pattern.Engine
import Packrat.Parser
import Packrat.Pool
import Packrat.Program.Listing
import Packrat.Proofs.Text.Boundary
import Packrat.Value.Display
import Packrat.Proofs.Machine.Frame
import Packrat.Proofs.Lowering.Growth
import Packrat.Proofs.Machine.Instruction
import Packrat.Proofs.Text.Reading
import Packrat.Proofs.Machine.Conclusion
import Packrat.Proofs.Lowering.Stage
import Packrat.Proofs.Lowering.Leaf
import Packrat.Proofs.Lowering.Call
import Packrat.Proofs.Lowering.Composite
import Packrat.Proofs.Lowering.Repetition
import Packrat.Proofs.Lowering.Rule
import Packrat.Proofs.Cache
import Packrat.Proofs.Machine.Guard
import Packrat.Proofs.Calls
import Packrat.Proofs.Matching
import Packrat.Proofs.Meaning.Related
import Packrat.Proofs.Reference
import Packrat.Proofs.Faults
import Packrat.Proofs.Machine.Alike
import Packrat.Proofs.Context
import Packrat.Proofs.CallStack
import Packrat.Proofs.Memoization
import Packrat.Proofs.Machine.Twins
import Packrat.Proofs.Refusals
import Packrat.Proofs.Siblings
import Packrat.Proofs.History
import Packrat.Proofs.Walks
import Packrat.Proofs.Grammar.Absorption
import Packrat.Proofs.Lowering.Source
import Packrat.Proofs.OutputTypes
import Packrat.Proofs.Cache.Session
import Packrat.Proofs.Cache.Publication
import Packrat.Proofs.Cache.Cycles
import Packrat.Proofs.Cache.WellFormed
import Packrat.Proofs.Uncut
import Packrat.Proofs.Machine.Step
import Packrat.Proofs.Trace
import Packrat.Proofs.Ignored
import Packrat.Proofs.Observation
import Packrat.Proofs.Machine.Stacks
import Packrat.Proofs.Restoration
import Packrat.Proofs.Isolation
import Packrat.Proofs.Executions
import Packrat.Proofs.Grammar.Order
import Packrat.Proofs.Lowering.Discipline
import Packrat.Proofs.Cache.Explanation
import Packrat.Proofs.Machine.Examined
import Packrat.Proofs.Examination
import Packrat.Proofs.Meaning.Iteration
import Packrat.Proofs.Repetition
import Packrat.Proofs.Number.Extent
import Packrat.Proofs.Number.Literal
import Packrat.Proofs.Value.Declaration
import Packrat.Proofs.Leaves
import Packrat.Proofs.Savings
import Packrat.Proofs.Program.Directive
import Packrat.Proofs.Machine.Blame
import Packrat.Proofs.Program.Labels
import Packrat.Proofs.Program.Tables
import Packrat.Proofs.Program.Flow
import Packrat.Proofs.Lowering.Flow
import Packrat.Proofs.Lowering.LeafFlow
import Packrat.Proofs.Lowering.CompositeFlow
import Packrat.Proofs.Formation
import Packrat.Proofs.Machine.InPlace
import Packrat.Proofs.Machine.Inside
import Packrat.Proofs.Rollback
import Packrat.Proofs.Grammar.Ascent
