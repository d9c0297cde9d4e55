import TapeMachine.Arguments
import TapeMachine.Command
import TapeMachine.Command.Inspector
import TapeMachine.Command.Simulator
import TapeMachine.Config
import TapeMachine.Config.Load
import TapeMachine.Config.OfValue
import TapeMachine.Decimal.Binary
import TapeMachine.Decimal.Shortest
import TapeMachine.Expression.Fault
import TapeMachine.Expression.Grammar
import TapeMachine.Expression.Lexer
import TapeMachine.Expression.Literal
import TapeMachine.Expression.Node
import TapeMachine.Expression.Numeral
import TapeMachine.Expression.Quotation
import TapeMachine.Expression.Reader
import TapeMachine.Expression.Template
import TapeMachine.Expression.Token
import TapeMachine.Failure
import TapeMachine.Files.Clock
import TapeMachine.Files.Path
import TapeMachine.Files.Source
import TapeMachine.Files.Tree
import TapeMachine.Host
import TapeMachine.Json.Depth
import TapeMachine.Json.Reader
import TapeMachine.Json.Value
import TapeMachine.Json.Writer
import TapeMachine.Machine
import TapeMachine.Machine.Run
import TapeMachine.Machine.Setup
import TapeMachine.Machine.Snapshot
import TapeMachine.Main
import TapeMachine.Peg
import TapeMachine.Proofs.Course
import TapeMachine.Proofs.EndlessTape
import TapeMachine.Proofs.Loop
import TapeMachine.Proofs.SideBySide
import TapeMachine.Proofs.OverflowPolicies
import TapeMachine.Proofs.ProgramText
import TapeMachine.Proofs.Reachable
import TapeMachine.Proofs.Recurrence
import TapeMachine.Proofs.Resumption
import TapeMachine.Proofs.RuleLookup
import TapeMachine.Proofs.Shadowing
import TapeMachine.Proofs.StreamView
import TapeMachine.Proofs.TokenLayout
import TapeMachine.Proofs.TraceReading
import TapeMachine.Proofs.Transition
import TapeMachine.Report
import TapeMachine.Rule
import TapeMachine.Rule.Columns
import TapeMachine.Rule.Layout
import TapeMachine.Rule.Listing
import TapeMachine.Rule.Reader
import TapeMachine.Rule.Shadow
import TapeMachine.RunLog
import TapeMachine.Text.Blank
import TapeMachine.Text.CharRange
import TapeMachine.Text.Cluster
import TapeMachine.Text.Console
import TapeMachine.Text.Digit
import TapeMachine.Text.Emoji
import TapeMachine.Text.Emoji.Names
import TapeMachine.Text.Hex
import TapeMachine.Text.Identifier
import TapeMachine.Text.Letter
import TapeMachine.Text.LowerCase
import TapeMachine.Text.Marked
import TapeMachine.Text.Markup
import TapeMachine.Text.Markup.Style
import TapeMachine.Text.Newline
import TapeMachine.Text.Pieces
import TapeMachine.Text.Printable
import TapeMachine.Text.Quoted
import TapeMachine.Text.Utf8
import TapeMachine.Text.Width
import TapeMachine.Text.Wrap
import TapeMachine.Token
import TapeMachine.Token.Stream
import TapeMachine.Proofs.AsciiText
import TapeMachine.Proofs.FileTree
import TapeMachine.Proofs.JsonReading
import TapeMachine.Proofs.Surroundings
import TapeMachine.Proofs.LogFile
import TapeMachine.Proofs.Simulation
import TapeMachine.Proofs.Phases
import TapeMachine.Proofs.ArgumentReading
import TapeMachine.Proofs.LogSwitch
import TapeMachine.Proofs.Utf8Text
import TapeMachine.Proofs.LineEnds
import TapeMachine.Proofs.JsonRest
import TapeMachine.Proofs.JsonRefusal
import TapeMachine.Proofs.JsonLineEnds
import TapeMachine.Proofs.JsonDepth
import TapeMachine.Proofs.PathText
import TapeMachine.Proofs.RequestText
import TapeMachine.Proofs.ConfigLoading
import TapeMachine.Proofs.StatusGuarantee
import TapeMachine.Proofs.Lockstep
import TapeMachine.Proofs.LineEndsCommand
import TapeMachine.Proofs.Renaming
import TapeMachine.Proofs.ProgramRefusal
import TapeMachine.Proofs.SharedStream
import TapeMachine.Proofs.JsonMembers
import TapeMachine.Proofs.ConfigMerging
import TapeMachine.Proofs.StepAccount
import TapeMachine.Proofs.Locality
import TapeMachine.Proofs.TokenRuns
import TapeMachine.Proofs.AppendedRules
import TapeMachine.Proofs.TapeGrowth
import TapeMachine.Proofs.MixedArguments
import TapeMachine.Proofs.Utf8Defects
import TapeMachine.Proofs.SourceReading
import TapeMachine.Proofs.CaretPlace
import TapeMachine.Proofs.PathWalk
import TapeMachine.Proofs.LogDirectory
import TapeMachine.Proofs.LineCells
import TapeMachine.Proofs.ListingLayout
