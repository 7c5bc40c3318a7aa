import MiniJava.Position
import MiniJava.Word
import MiniJava.Syntax.Expr
import MiniJava.Syntax.Stmt
import MiniJava.Syntax.Program
import MiniJava.Syntax.Node
import MiniJava.Syntax.Frame
import MiniJava.Tree.Basic
import MiniJava.Tree.Syntax
import MiniJava.Query
import MiniJava.Text.Printable
import MiniJava.Text.Quoted
import MiniJava.Diagnostic.Basic
import MiniJava.Event
import MiniJava.Diagnostic.Declaration
import MiniJava.Config
import MiniJava.Layout.Line
import MiniJava.Layout.Expr
import MiniJava.Layout.Stmt
import MiniJava.Layout.Node
import MiniJava.Layout.Printer
import MiniJava.Outline
import MiniJava.Tally
import MiniJava.Declarations.Error
import MiniJava.Declarations.Scope
import MiniJava.Declarations.Check
import MiniJava.Transform.Basic
import MiniJava.Transform.Passes
import MiniJava.Decimal.Shortest
import MiniJava.Json.Basic
import MiniJava.Json.Error
import MiniJava.Json.Record
import MiniJava.Json.Encode
import MiniJava.Json.Decode
import MiniJava.Proofs.Declarations.Frame
import MiniJava.Proofs.Declarations.Reuse
import MiniJava.Proofs.Declarations.Acceptance
import MiniJava.Proofs.Grammar.Token
import MiniJava.Proofs.Syntax.Names
import MiniJava.Proofs.Syntax.Spans
import MiniJava.Proofs.Grammar.Scan
import MiniJava.Proofs.Grammar.Expr
import MiniJava.Proofs.Grammar.ExprParser
import MiniJava.Proofs.Grammar.Writes
import MiniJava.Proofs.Grammar.ExprText
import MiniJava.Proofs.Grammar.Stmt
import MiniJava.Proofs.Syntax.Norm
import MiniJava.Proofs.Grammar.StmtParser
import MiniJava.Proofs.Grammar.Program
import MiniJava.Proofs.Grammar.ProgramParser
import MiniJava.Proofs.Grammar.Lines
import MiniJava.Proofs.Grammar.StmtText
import MiniJava.Proofs.Grammar.ProgramText
import MiniJava.Proofs.Declarations.Agreement
import MiniJava.Proofs.Tree.Walk
import MiniJava.Proofs.Tree.Selection
import MiniJava.Proofs.Transform.Rebuilding
import MiniJava.Proofs.Transform.Hooks
import MiniJava.Proofs.Tree.Levels
import MiniJava.Proofs.Outline.Lines
import MiniJava.Proofs.Transform.Traversals
import MiniJava.Proofs.Spans.Layout
import MiniJava.Proofs.Spans.Outline
import MiniJava.Proofs.Spans.Check
import MiniJava.Proofs.Spans.Query
import MiniJava.Proofs.Spans.Results
import MiniJava.Proofs.Outline.Text
import MiniJava.Proofs.Outline.Heading
import MiniJava.Proofs.Outline.Rebuild
import MiniJava.Proofs.Outline.Faithful
import MiniJava.Proofs.Declarations.Lookup
import MiniJava.Proofs.Tally.Declarations
import MiniJava.Proofs.Declarations.Renaming
import MiniJava.Proofs.Json.Perturbed
import MiniJava.Proofs.Json.Reading
import MiniJava.Proofs.Json.RoundTrip
import MiniJava.Proofs.Declarations.Repeats
import MiniJava.Proofs.Declarations.ClassNames
import MiniJava.Proofs.Declarations.Recovery
import MiniJava.Proofs.Grammar.ExprReading
import MiniJava.Proofs.Grammar.FewestTokens
import MiniJava.Proofs.Layout.Nesting
import MiniJava.Proofs.Layout.Indentation
import MiniJava.Proofs.Tree.Calls
import MiniJava.Proofs.Tree.EarlyExit
import MiniJava.Proofs.Tree.Queries
import MiniJava.Proofs.Spans.SameShape
import MiniJava.Proofs.Transform.Leaves
import MiniJava.Proofs.Tree.Traverse
import MiniJava.Proofs.Transform.Entries
import MiniJava.Proofs.Transform.Identifiers
import MiniJava.Proofs.Transform.Declarations
import MiniJava.Proofs.Transform.Pruning
import MiniJava.Proofs.Json.NameLists
import MiniJava.Proofs.Json.EmptyNames
import MiniJava.Proofs.Declarations.Trace
import MiniJava.Proofs.Tree.Parts
import MiniJava.Proofs.Spans.Covering
import MiniJava.Proofs.Spans.Text
import MiniJava.Proofs.Grammar.DanglingElse
import MiniJava.Proofs.Outline.Places
import MiniJava.Proofs.Syntax.Frames
import MiniJava.Proofs.Transform.Passes
