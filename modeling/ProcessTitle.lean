import ProcessTitle.Text.Bytes
import ProcessTitle.Text.Utf8
import ProcessTitle.Unicode.Runs
import ProcessTitle.Unicode.Category
import ProcessTitle.Unicode.Script
import ProcessTitle.Unicode.Fold
import ProcessTitle.Unicode.Property
import ProcessTitle.Text.Quoted
import ProcessTitle.Title
import ProcessTitle.Proc.Environ
import ProcessTitle.Proc.Record
import ProcessTitle.ArgBlock
import ProcessTitle.ThreadName
import ProcessTitle.Expr.Ty
import ProcessTitle.Expr.Syntax
import ProcessTitle.Expr.Token
import ProcessTitle.Decimal.Read
import ProcessTitle.Expr.Parser
import ProcessTitle.Decimal.Shortest
import ProcessTitle.Expr.Value
import ProcessTitle.Numeric.Power
import ProcessTitle.Expr.Arith
import ProcessTitle.Text.CaseMapping
import ProcessTitle.Text.Base64
import ProcessTitle.Text.Duration
import ProcessTitle.Expr.Json
import ProcessTitle.Text.Pattern
import ProcessTitle.Text.Edit
import ProcessTitle.Expr.Coerce
import ProcessTitle.Expr.Access
import ProcessTitle.Expr.Methods
import ProcessTitle.Expr.Typing
import ProcessTitle.Sorting
import ProcessTitle.Expr.Builtin
import ProcessTitle.Expr.Eval
import ProcessTitle.Expr.Simplify
import ProcessTitle.Expr.Program
import ProcessTitle.Titler
import ProcessTitle.Config.Vars
import ProcessTitle.Config.Telemetry
import ProcessTitle.Proc.Started
import ProcessTitle.ArgvSetter
import ProcessTitle.Library
import ProcessTitle.Cli.Flags
import ProcessTitle.Cli.Help
import ProcessTitle.Cli.Command
import ProcessTitle.Cli.Scripts
import ProcessTitle.Cli.Completion
import ProcessTitle.Tracing
import ProcessTitle.Cli.Run
import ProcessTitle.Main
import ProcessTitle.Proofs.Cmdline
import ProcessTitle.Proofs.ArgArea
import ProcessTitle.Proofs.Readback
import ProcessTitle.Proofs.Titles
import ProcessTitle.Proofs.Applying
import ProcessTitle.Proofs.Capture
import ProcessTitle.Proofs.Gate
import ProcessTitle.Proofs.Environment
import ProcessTitle.Proofs.Decoding
import ProcessTitle.Proofs.Attributes
import ProcessTitle.Proofs.ShortName
