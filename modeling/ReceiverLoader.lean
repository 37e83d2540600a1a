import ReceiverLoader.BuildContext
import ReceiverLoader.BuildScript
import ReceiverLoader.CommandLine.Invocation
import ReceiverLoader.CommandLine.Run
import ReceiverLoader.Diagnostic
import ReceiverLoader.FilePath
import ReceiverLoader.FileSystem
import ReceiverLoader.Grammar.Ahead
import ReceiverLoader.Grammar.Attribute
import ReceiverLoader.Grammar.Declaration
import ReceiverLoader.Grammar.Error
import ReceiverLoader.Grammar.Expression
import ReceiverLoader.Grammar.Form
import ReceiverLoader.Grammar.Function
import ReceiverLoader.Grammar.Generics
import ReceiverLoader.Grammar.Item
import ReceiverLoader.Grammar.Member
import ReceiverLoader.Grammar.Operator
import ReceiverLoader.Grammar.Parser
import ReceiverLoader.Grammar.Path
import ReceiverLoader.Grammar.Pattern
import ReceiverLoader.Grammar.Reading
import ReceiverLoader.Grammar.Rules
import ReceiverLoader.Grammar.Statement
import ReceiverLoader.Grammar.Type
import ReceiverLoader.Grammar.Use
import ReceiverLoader.Host
import ReceiverLoader.Loader
import ReceiverLoader.Log
import ReceiverLoader.Main
import ReceiverLoader.Marker.Arguments
import ReceiverLoader.Marker.Expansion
import ReceiverLoader.OrderedList
import ReceiverLoader.Process
import ReceiverLoader.Proofs.BuildScript.Agreement
import ReceiverLoader.Proofs.BuildScript.Unmarked
import ReceiverLoader.Proofs.CommandLine.Completion
import ReceiverLoader.Proofs.CommandLine.Generation
import ReceiverLoader.Proofs.CommandLine.Invocation
import ReceiverLoader.Proofs.CommandLine.Prediction
import ReceiverLoader.Proofs.FilePath.Components
import ReceiverLoader.Proofs.FilePath.Stems
import ReceiverLoader.Proofs.FileSystem.Growth
import ReceiverLoader.Proofs.FileSystem.Invariant
import ReceiverLoader.Proofs.FileSystem.Replacement
import ReceiverLoader.Proofs.FileSystem.Writing
import ReceiverLoader.Proofs.Grammar.Ahead
import ReceiverLoader.Proofs.Grammar.Alike
import ReceiverLoader.Proofs.Grammar.Attributed
import ReceiverLoader.Proofs.Grammar.Expressions
import ReceiverLoader.Proofs.Grammar.Gives
import ReceiverLoader.Proofs.Grammar.GivesFrom
import ReceiverLoader.Proofs.Grammar.Integers
import ReceiverLoader.Proofs.Grammar.Items
import ReceiverLoader.Proofs.Grammar.Leaving
import ReceiverLoader.Proofs.Grammar.LeavingRules
import ReceiverLoader.Proofs.Grammar.Operands
import ReceiverLoader.Proofs.Grammar.Paths
import ReceiverLoader.Proofs.Grammar.Reading
import ReceiverLoader.Proofs.Grammar.Refines
import ReceiverLoader.Proofs.Grammar.SignedIntegers
import ReceiverLoader.Proofs.Grammar.Types
import ReceiverLoader.Proofs.Grammar.Wording
import ReceiverLoader.Proofs.Host.Announcing
import ReceiverLoader.Proofs.Host.Overwriting
import ReceiverLoader.Proofs.Host.Style
import ReceiverLoader.Proofs.Host.Writing
import ReceiverLoader.Proofs.Loader.Pieces
import ReceiverLoader.Proofs.Loader.Reading
import ReceiverLoader.Proofs.Loader.Rendering
import ReceiverLoader.Proofs.Marker.Agreement
import ReceiverLoader.Proofs.Marker.IntegerRange
import ReceiverLoader.Proofs.Marker.Listing
import ReceiverLoader.Proofs.Marker.Printed
import ReceiverLoader.Proofs.Marker.Settling
import ReceiverLoader.Proofs.Marker.Written
import ReceiverLoader.Proofs.OrderedList
import ReceiverLoader.Proofs.QualifiedName
import ReceiverLoader.Proofs.QualifiedName.Resolution
import ReceiverLoader.Proofs.QualifiedName.Segments
import ReceiverLoader.Proofs.Round.Confinement
import ReceiverLoader.Proofs.Round.Course
import ReceiverLoader.Proofs.Round.Files
import ReceiverLoader.Proofs.Round.Location
import ReceiverLoader.Proofs.Round.Outcome
import ReceiverLoader.Proofs.Round.Rearrangement
import ReceiverLoader.Proofs.Round.Recording
import ReceiverLoader.Proofs.Round.Report
import ReceiverLoader.Proofs.Round.Selection
import ReceiverLoader.Proofs.Round.Unmarked
import ReceiverLoader.Proofs.Session.Announcing
import ReceiverLoader.Proofs.Session.Once
import ReceiverLoader.Proofs.Source.Anchoring
import ReceiverLoader.Proofs.Source.Collection
import ReceiverLoader.Proofs.Source.Contributions
import ReceiverLoader.Proofs.Source.Failure
import ReceiverLoader.Proofs.Source.FileOrder
import ReceiverLoader.Proofs.Source.Files
import ReceiverLoader.Proofs.Source.Flattening
import ReceiverLoader.Proofs.Source.Importing
import ReceiverLoader.Proofs.Source.Leaves
import ReceiverLoader.Proofs.Source.Load
import ReceiverLoader.Proofs.Source.ModuleWords
import ReceiverLoader.Proofs.Source.MovedModule
import ReceiverLoader.Proofs.Source.Occurrence
import ReceiverLoader.Proofs.Source.Places
import ReceiverLoader.Proofs.Source.Resolvable
import ReceiverLoader.Proofs.Source.Spelling
import ReceiverLoader.Proofs.Source.Splitting
import ReceiverLoader.Proofs.Source.Transparent
import ReceiverLoader.Proofs.Source.Vetting
import ReceiverLoader.Proofs.Source.Wording
import ReceiverLoader.Proofs.Text.LineEnds
import ReceiverLoader.Proofs.Text.Lines
import ReceiverLoader.Proofs.Text.Split
import ReceiverLoader.Proofs.Text.Word
import ReceiverLoader.Proofs.Token.Comment
import ReceiverLoader.Proofs.Token.Digits
import ReceiverLoader.Proofs.Token.Fragment
import ReceiverLoader.Proofs.Token.Identifier
import ReceiverLoader.Proofs.Token.Piece
import ReceiverLoader.Proofs.Token.Quoted
import ReceiverLoader.Proofs.Token.Shape
import ReceiverLoader.Proofs.Token.Words
import ReceiverLoader.Proofs.Token.WrittenInteger
import ReceiverLoader.Proofs.TypeTable
import ReceiverLoader.Proofs.TypeTable.Recording
import ReceiverLoader.QualifiedName
import ReceiverLoader.Receiver
import ReceiverLoader.Round
import ReceiverLoader.Source.Collection
import ReceiverLoader.Source.Content
import ReceiverLoader.Source.Finding
import ReceiverLoader.Source.Scope
import ReceiverLoader.Source.Tree
import ReceiverLoader.Text.CodeRange
import ReceiverLoader.Text.Ident
import ReceiverLoader.Text.Ident.Table
import ReceiverLoader.Text.Quoted
import ReceiverLoader.Text.Quoted.Table
import ReceiverLoader.Text.Split
import ReceiverLoader.Text.Word
import ReceiverLoader.Text.Word.Table
import ReceiverLoader.Token.Basic
import ReceiverLoader.Token.Blank
import ReceiverLoader.Token.Lexeme
import ReceiverLoader.Token.Literal
import ReceiverLoader.Token.Number
import ReceiverLoader.Token.Quotation
import ReceiverLoader.Token.Trees
import ReceiverLoader.Token.Word
import ReceiverLoader.TypeTable
