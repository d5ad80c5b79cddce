import SourceIndex.Ask
import SourceIndex.Chunk
import SourceIndex.Chunk.Written
import SourceIndex.Command
import SourceIndex.CommandLine
import SourceIndex.Config
import SourceIndex.Config.Loading
import SourceIndex.Config.Written
import SourceIndex.Conversation
import SourceIndex.Exclusion
import SourceIndex.Extraction
import SourceIndex.Failure
import SourceIndex.FileTree
import SourceIndex.Grammar.Go
import SourceIndex.Grammar.JavaScript
import SourceIndex.Grammar.Lexicon
import SourceIndex.Grammar.Pattern
import SourceIndex.Grammar.Productions
import SourceIndex.Grammar.Python
import SourceIndex.Grammar.Rule
import SourceIndex.Grammar.Rust
import SourceIndex.Grammar.Tables
import SourceIndex.Grammar.TypeScript
import SourceIndex.Indexing
import SourceIndex.Json.Fault
import SourceIndex.Json.Reader
import SourceIndex.Json.Scan
import SourceIndex.Json.Shape
import SourceIndex.Json.Value
import SourceIndex.Language
import SourceIndex.Language.Written
import SourceIndex.Lexing.Alphabet
import SourceIndex.Lexing.Lexer
import SourceIndex.Lexing.Rivalry
import SourceIndex.Lexing.Scanner
import SourceIndex.Lexing.TokenAutomaton
import SourceIndex.Main
import SourceIndex.Number.Floating
import SourceIndex.Number.Shortest
import SourceIndex.Parsing.Merging
import SourceIndex.Parsing.ParseTable
import SourceIndex.Parsing.ParseTree
import SourceIndex.Parsing.Parser
import SourceIndex.Parsing.Resolution
import SourceIndex.Parsing.Stack
import SourceIndex.Parsing.StateGraph
import SourceIndex.Parsing.TokenUse
import SourceIndex.PathName
import SourceIndex.Program
import SourceIndex.Proofs.Ask.Trace
import SourceIndex.Proofs.Command.Complaints
import SourceIndex.Proofs.Config.Layers
import SourceIndex.Proofs.Exclusion.Bases
import SourceIndex.Proofs.Exclusion.Directories
import SourceIndex.Proofs.Exclusion.Patterns
import SourceIndex.Proofs.Extraction.Ids
import SourceIndex.Proofs.Extraction.LineNumbers
import SourceIndex.Proofs.Extraction.Nesting
import SourceIndex.Proofs.Extraction.Offsets
import SourceIndex.Proofs.Extraction.Selection
import SourceIndex.Proofs.FileTree.Names
import SourceIndex.Proofs.FileTree.Paths
import SourceIndex.Proofs.FileTree.Placing
import SourceIndex.Proofs.Indexing.Account
import SourceIndex.Proofs.Indexing.Failures
import SourceIndex.Proofs.Indexing.OwnStore
import SourceIndex.Proofs.Indexing.RecordOrder
import SourceIndex.Proofs.Indexing.Relaxation
import SourceIndex.Proofs.Indexing.Relocation
import SourceIndex.Proofs.Indexing.Reordering
import SourceIndex.Proofs.Indexing.Tally
import SourceIndex.Proofs.Json.Conforming
import SourceIndex.Proofs.Json.Conversion
import SourceIndex.Proofs.Json.Decimals
import SourceIndex.Proofs.Json.Layouts
import SourceIndex.Proofs.Json.Members
import SourceIndex.Proofs.Json.Reading
import SourceIndex.Proofs.Json.Rendering
import SourceIndex.Proofs.Json.Scanning
import SourceIndex.Proofs.Json.Singles
import SourceIndex.Proofs.Json.Spelling
import SourceIndex.Proofs.Number.NearTies
import SourceIndex.Proofs.Number.Recovery
import SourceIndex.Proofs.Number.Rounding
import SourceIndex.Proofs.Number.Scaling
import SourceIndex.Proofs.Number.Shortest
import SourceIndex.Proofs.Program.Formats
import SourceIndex.Proofs.Program.Misuse
import SourceIndex.Proofs.Ranking.Acceptance
import SourceIndex.Proofs.Ranking.Arguments
import SourceIndex.Proofs.Ranking.Rewriting
import SourceIndex.Proofs.Store.Calls
import SourceIndex.Proofs.Store.Creation
import SourceIndex.Proofs.Store.Lines
import SourceIndex.Proofs.Store.Reordering
import SourceIndex.Proofs.Store.Room
import SourceIndex.Proofs.Syntax.Faults
import SourceIndex.Proofs.Syntax.Nesting
import SourceIndex.Proofs.Syntax.Places
import SourceIndex.Proofs.Syntax.Preorder
import SourceIndex.Proofs.Text.Bytes
import SourceIndex.Proofs.Text.DecodedLines
import SourceIndex.Proofs.Text.Decoding
import SourceIndex.Proofs.Text.Joints
import SourceIndex.Proofs.Text.LineEnds
import SourceIndex.Proofs.Text.Sequences
import SourceIndex.Proofs.Text.Slices
import SourceIndex.Proofs.Walk.Distinct
import SourceIndex.Proofs.Walk.Reach
import SourceIndex.Proofs.Walk.Relocation
import SourceIndex.Proofs.Walk.Reordering
import SourceIndex.Proofs.Walk.Traversal
import SourceIndex.Ranking
import SourceIndex.Report
import SourceIndex.Scanning.IndentScanner
import SourceIndex.Scanning.RawTextScanner
import SourceIndex.Scanning.ScriptScanner
import SourceIndex.Shell.Arithmetic
import SourceIndex.Shell.Format
import SourceIndex.Shell.Launch
import SourceIndex.Shell.Machine
import SourceIndex.Shell.Reader
import SourceIndex.Shell.Script
import SourceIndex.Shell.Session
import SourceIndex.Shell.System
import SourceIndex.Shell.Tool
import SourceIndex.Snapshot
import SourceIndex.Store
import SourceIndex.Syntax.Cursor
import SourceIndex.Syntax.Node
import SourceIndex.Syntax.Reading
import SourceIndex.Syntax.Visible
import SourceIndex.Text.Blank
import SourceIndex.Text.CharSet
import SourceIndex.Text.LineEnds
import SourceIndex.Text.Lossy
import SourceIndex.Text.Quoted
import SourceIndex.Text.Search
import SourceIndex.Text.Source
import SourceIndex.Text.Unicode
import SourceIndex.Toml.Conform
import SourceIndex.Toml.Document
import SourceIndex.Toml.Fault
import SourceIndex.Toml.Item
import SourceIndex.Toml.Reader
import SourceIndex.Toml.Scan
import SourceIndex.Walk
