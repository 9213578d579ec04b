import ArgTaint.Analysis.FlowGraph
import ArgTaint.Analysis.Function
import ArgTaint.Analysis.Ledger
import ArgTaint.Analysis.Program
import ArgTaint.Analysis.ReportFile
import ArgTaint.Analysis.Stats
import ArgTaint.Analysis.Summary
import ArgTaint.Analysis.Target
import ArgTaint.Build
import ArgTaint.Command.Flag
import ArgTaint.Command.Hint
import ArgTaint.Command.Options
import ArgTaint.Command.Render
import ArgTaint.Command.Run
import ArgTaint.Command.Taint
import ArgTaint.Command.Vet
import ArgTaint.Config.Basic
import ArgTaint.Config.Load
import ArgTaint.Config.Parse
import ArgTaint.Directive
import ArgTaint.Dot
import ArgTaint.Engine.Event
import ArgTaint.Engine.Flow
import ArgTaint.Engine.Propagation
import ArgTaint.Engine.Store
import ArgTaint.Exclusion
import ArgTaint.FiniteMap
import ArgTaint.Host
import ArgTaint.Kind
import ArgTaint.LabelGraph.Basic
import ArgTaint.LabelGraph.Cycles
import ArgTaint.LabelGraph.Table
import ArgTaint.Log
import ArgTaint.Main
import ArgTaint.Parallel
import ArgTaint.Path
import ArgTaint.Pattern.Basic
import ArgTaint.Pattern.Class
import ArgTaint.Pattern.Machine
import ArgTaint.Pattern.Parse
import ArgTaint.Policy
import ArgTaint.Position
import ArgTaint.Ssa.Basic
import ArgTaint.Ssa.View
import ArgTaint.Tally
import ArgTaint.Template
import ArgTaint.Terminal
import ArgTaint.Text.CaseFold
import ArgTaint.Text.Category
import ArgTaint.Text.Letter
import ArgTaint.Text.Printable
import ArgTaint.Text.Property
import ArgTaint.Text.Quoted
import ArgTaint.Text.SafeName
import ArgTaint.Text.Script
import ArgTaint.Text.Space
import ArgTaint.Text.Symbol
import ArgTaint.UseDef
import ArgTaint.Workbench
import ArgTaint.Workshop
import ArgTaint.Workspace
import ArgTaint.Yaml.Base64
import ArgTaint.Yaml.Cursor
import ArgTaint.Yaml.Decode
import ArgTaint.Yaml.KeyOrder
import ArgTaint.Yaml.Node
import ArgTaint.Yaml.Node.Parse
import ArgTaint.Yaml.Number
import ArgTaint.Yaml.Record
import ArgTaint.Yaml.Scalar
import ArgTaint.Yaml.Timestamp
import ArgTaint.Yaml.Token
import ArgTaint.Yaml.Token.Comment
import ArgTaint.Yaml.Token.Property
import ArgTaint.Yaml.Token.Scalar
import ArgTaint.Yaml.Token.Scan
import ArgTaint.Yaml.Window
import ArgTaint.Yaml.Write
import ArgTaint.Proofs.Engine.Representation
import ArgTaint.Proofs.Engine.Moves
import ArgTaint.Proofs.Workbench
import ArgTaint.Proofs.Engine.Closure
import ArgTaint.Proofs.Ssa.Referrers
import ArgTaint.Proofs.LabelGraph.Search
import ArgTaint.Proofs.LabelGraph.Construction
import ArgTaint.Proofs.LabelGraph.Components
import ArgTaint.Proofs.Build
import ArgTaint.Proofs.Engine.FlowCycles
import ArgTaint.Proofs.Engine.Termination
import ArgTaint.Proofs.Parallel
import ArgTaint.Assembly
import ArgTaint.Proofs.Assembly
import ArgTaint.Proofs.Analysis.Accounting
import ArgTaint.Proofs.Build.Rejection
import ArgTaint.Proofs.Text.ByteOrder
import ArgTaint.Proofs.Analysis.Determinism
import ArgTaint.Proofs.Command.Vet
import ArgTaint.Proofs.Yaml.Cursor
import ArgTaint.Proofs.Yaml.Quoted
import ArgTaint.Proofs.Yaml.Plain
import ArgTaint.Proofs.Yaml.Write
import ArgTaint.Proofs.Yaml.Lines
import ArgTaint.Proofs.Yaml.Number
import ArgTaint.Proofs.Yaml.Parse
import ArgTaint.Proofs.Yaml.Blocks
import ArgTaint.Proofs.Yaml.Decode
import ArgTaint.Proofs.Yaml.Entries
import ArgTaint.Proofs.Analysis.ReportFile
import ArgTaint.Proofs.Build.Growth
import ArgTaint.Proofs.Engine.Provenance
import ArgTaint.Proofs.Workshop
import ArgTaint.Proofs.Assembly.Construction
import ArgTaint.Proofs.Engine.Flows
import ArgTaint.Proofs.Assembly.Flows
import ArgTaint.Proofs.Config
import ArgTaint.Proofs.Yaml.Invariant
import ArgTaint.Proofs.Command.Taint
import ArgTaint.Proofs.LabelGraph.StrongComponents
import ArgTaint.Proofs.Analysis.Seeds
import ArgTaint.Proofs.Engine.BreadthFirst
import ArgTaint.Engine.Logging
import ArgTaint.Proofs.Engine.Diagnostics
import ArgTaint.Proofs.Dot
import ArgTaint.Proofs.Analysis.FlowGraph
import ArgTaint.Proofs.Directive
import ArgTaint.Proofs.Analysis.Silencing
import ArgTaint.Proofs.Directive.Grammar
import ArgTaint.Proofs.Analysis.TargetKinds
import ArgTaint.Proofs.Exclusion
import ArgTaint.Proofs.Config.Exclusion
import ArgTaint.Proofs.Text.Utf8
import ArgTaint.Proofs.Text.Quoted
import ArgTaint.Proofs.Analysis.Ledger
import ArgTaint.Proofs.Analysis.Summary
import ArgTaint.Proofs.Config.Verbosity
import ArgTaint.Proofs.LabelGraph.Table
import ArgTaint.Proofs.Ssa.Positions
import ArgTaint.Proofs.Text.SafeName
