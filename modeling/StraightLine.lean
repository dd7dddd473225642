import StraightLine.Alloc.Check
import StraightLine.Alloc.LinearScan
import StraightLine.Alloc.Location
import StraightLine.Code.Instr
import StraightLine.Code.Interp
import StraightLine.Code.Session
import StraightLine.Code.Var
import StraightLine.Compile
import StraightLine.Folder
import StraightLine.InternalError
import StraightLine.Lockstep
import StraightLine.Order.BlockSort
import StraightLine.Program.Emit
import StraightLine.Program.Instr
import StraightLine.Program.Machine
import StraightLine.Program.Packed.Reader
import StraightLine.Program.Packed.Token
import StraightLine.Program.Packed.Writer
import StraightLine.Proofs.KeyedList
import StraightLine.Proofs.StableSort
import StraightLine.Range.Basic
import StraightLine.Range.Chart
import StraightLine.Range.Conflict
import StraightLine.Sample
import StraightLine.Settings
import StraightLine.Source.Meaning
import StraightLine.Source.Names
import StraightLine.Source.Node
import StraightLine.Source.Syntax
import StraightLine.Source.Words
import StraightLine.Text.Cluster
import StraightLine.Text.Cluster.Table
import StraightLine.Text.Column
import StraightLine.Text.Column.Table
import StraightLine.Text.Decimal
import StraightLine.Text.Keyword
import StraightLine.Text.Normal
import StraightLine.Text.Normal.CombiningClass
import StraightLine.Text.Normal.Compatibility
import StraightLine.Text.Normal.Decomposition
import StraightLine.Text.Printable
import StraightLine.Text.Quoted
import StraightLine.Text.Utf8
import StraightLine.Text.Writer
import StraightLine.Timing
import StraightLine.Toml.Document
import StraightLine.Toml.Grammar
import StraightLine.Toml.Number
import StraightLine.Toml.Quoted
import StraightLine.Toml.Value
import StraightLine.Trace.Event
import StraightLine.Trace.Level
import StraightLine.Trace.Ring
import StraightLine.Trace.Sink
import StraightLine.Trace.Span
import StraightLine.Trace.Timestamp
import StraightLine.Trace.Tracer
import StraightLine.Proofs.LiveRanges
import StraightLine.Proofs.ScanInvariant
import StraightLine.Proofs.AllocationCheck
import StraightLine.Proofs.AllocationSafety
import StraightLine.Proofs.Simulation
import StraightLine.Proofs.BackEnd
import StraightLine.Proofs.TreeLowering
import StraightLine.Proofs.LoweringMeaning
import StraightLine.Proofs.DefinedBeforeUse
import StraightLine.Proofs.CompileCorrect
import StraightLine.Proofs.SpillOptimality
import StraightLine.Proofs.StatementCalls
import StraightLine.Proofs.CompileOutcome
import StraightLine.Proofs.NameVersions
import StraightLine.Proofs.CodeDiscipline
import StraightLine.Proofs.PackedRoundTrip
import StraightLine.Proofs.CheckedAllocation
import StraightLine.Proofs.UnassignedReads
import StraightLine.Proofs.SamplePrograms
import StraightLine.Proofs.PackedTruncation
import StraightLine.Proofs.InertNodes
import StraightLine.Proofs.Observation
import StraightLine.Proofs.ConflictCount
import StraightLine.Proofs.ProgramShape
import StraightLine.Proofs.TouchOrder
import StraightLine.Proofs.VarOrder
import StraightLine.Proofs.OverlapGraph
import StraightLine.Proofs.AllocationPartition
import StraightLine.Proofs.OperandLocations
import StraightLine.Proofs.IntervalOrder
import StraightLine.Proofs.NameNumbers
import StraightLine.Proofs.CheckDecides
import StraightLine.Proofs.InstructionCode
import StraightLine.Proofs.RingContents
import StraightLine.Proofs.BothOutputs
import StraightLine.Proofs.Listing
import StraightLine.Proofs.ChartColumns
import StraightLine.Proofs.RegisterFile
import StraightLine.Proofs.OrderedScan
