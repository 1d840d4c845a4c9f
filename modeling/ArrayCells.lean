import ArrayCells.Binding
import ArrayCells.Binding.Read
import ArrayCells.Binding.Text
import ArrayCells.Binding.Write
import ArrayCells.Cell
import ArrayCells.Context
import ArrayCells.Environment
import ArrayCells.Environment.Access
import ArrayCells.Fault
import ArrayCells.Operand
import ArrayCells.Operand.Arithmetic
import ArrayCells.Operand.Element
import ArrayCells.Operand.Instantiate
import ArrayCells.Operand.Kind
import ArrayCells.Operand.Text
import ArrayCells.Proofs.Address
import ArrayCells.Proofs.Agreement
import ArrayCells.Proofs.BareFaults
import ArrayCells.Proofs.Blocks
import ArrayCells.Proofs.Confinement
import ArrayCells.Proofs.ConstantReads
import ArrayCells.Proofs.Copying
import ArrayCells.Proofs.Denotation
import ArrayCells.Proofs.DerivedShapes
import ArrayCells.Proofs.ElementPaths
import ArrayCells.Proofs.Elements
import ArrayCells.Proofs.EnvironmentRuns
import ArrayCells.Proofs.Evaluation
import ArrayCells.Proofs.Footprint
import ArrayCells.Proofs.Independence
import ArrayCells.Proofs.Initialization
import ArrayCells.Proofs.Instantiation
import ArrayCells.Proofs.IntegerValues
import ArrayCells.Proofs.Journal
import ArrayCells.Proofs.KeptLabels
import ArrayCells.Proofs.Labels
import ArrayCells.Proofs.LastWriter
import ArrayCells.Proofs.Lifetime
import ArrayCells.Proofs.MarkedRegions
import ArrayCells.Proofs.Marking
import ArrayCells.Proofs.Marks
import ArrayCells.Proofs.Materialization
import ArrayCells.Proofs.Numbering
import ArrayCells.Proofs.ParsedForm
import ArrayCells.Proofs.PassOrder
import ArrayCells.Proofs.Places
import ArrayCells.Proofs.PreparedIndexes
import ArrayCells.Proofs.RawReads
import ArrayCells.Proofs.Readers
import ArrayCells.Proofs.Reading
import ArrayCells.Proofs.Record
import ArrayCells.Proofs.RegionAssignment
import ArrayCells.Proofs.RegionMarks
import ArrayCells.Proofs.RegionSources
import ArrayCells.Proofs.Rereading
import ArrayCells.Proofs.RoundTrip
import ArrayCells.Proofs.RowMajor
import ArrayCells.Proofs.SameOperands
import ArrayCells.Proofs.Sameness
import ArrayCells.Proofs.Scanning
import ArrayCells.Proofs.ScopeGuard
import ArrayCells.Proofs.ScopeStack
import ArrayCells.Proofs.Selection
import ArrayCells.Proofs.Simulation
import ArrayCells.Proofs.SingleWrites
import ArrayCells.Proofs.Spreads
import ArrayCells.Proofs.TextualAccess
import ArrayCells.Proofs.Trail
import ArrayCells.Proofs.UnaddressedWrites
import ArrayCells.Proofs.ViewElements
import ArrayCells.Proofs.Views
import ArrayCells.Proofs.WholeDimension
import ArrayCells.Proofs.WriteOnce
import ArrayCells.Proofs.Writing
import ArrayCells.Proofs.WrittenForm
import ArrayCells.Shape
import ArrayCells.Shape.RowMajor
import ArrayCells.Source.Attribute
import ArrayCells.Source.Expr
import ArrayCells.Source.Form
import ArrayCells.Source.Grammar
import ArrayCells.Source.Item
import ArrayCells.Source.Lexer
import ArrayCells.Source.Literal
import ArrayCells.Source.Lowering
import ArrayCells.Source.Pattern
import ArrayCells.Source.Precedence
import ArrayCells.Source.Reader
import ArrayCells.Source.Token
import ArrayCells.Source.Type
import ArrayCells.Store
import ArrayCells.Store.Memory
import ArrayCells.Store.Plain
import ArrayCells.Text.Identifier
import ArrayCells.Text.Quoted
import ArrayCells.Text.Ranges
