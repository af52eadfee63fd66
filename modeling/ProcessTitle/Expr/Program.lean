import ProcessTitle.Expr.Parser
import ProcessTitle.Expr.Typing
import ProcessTitle.Expr.Eval
import ProcessTitle.Expr.Simplify
import ProcessTitle.Text.Utf8
import ProcessTitle.Text.Quoted
import ProcessTitle.Proc.Environ

/-!
# Title expressions

A title expression computes a title from `args`, `exe`, `title`, `cmdline`, `env` and `pid`.
-/

namespace ProcessTitle

namespace Expr

/-- The values a title expression runs on. -/
structure TitleEnv where
  args : List Bytes
  exe : Bytes
  title : Bytes
  environ : Environ
  pid : Int

/-- The variables of an environment; `cmdline` is the arguments joined with spaces. -/
def TitleEnv.variables (e : TitleEnv) : List (String × Value) :=
  [("args", Value.strings e.args), ("exe", .str e.exe), ("title", .str e.title),
   ("cmdline", .str (Bytes.join [32] e.args)),
   ("env", .map .string .string
     (Value.entriesOf (e.environ.toList.map fun (k, v) => (.str k, .str v)))),
   ("pid", .int e.pid)]

def TitleEnv.types : List (String × Ty) :=
  [("args", .arrayOf .string), ("exe", .string), ("title", .string), ("cmdline", .string),
   ("env", .map .string .string), ("pid", .int)]

/-- A compiled title expression: its source as given and its checked, simplified tree. -/
structure Program where
  source : Bytes
  tree : Node

namespace Program

def quoted (src : Bytes) : Bytes := Quoted.quote src

def compileFailure (src : Bytes) (chars : List Char) (e : Located) : Bytes :=
  Bytes.ofString "failed to compile title expression " ++ quoted src ++ Bytes.ofString ": " ++
    Located.render chars e

/-- Line ends as the source is read: a carriage return, alone or before a line feed, is a
line feed. -/
def normalizeLines : List Char → List Char
  | '\r' :: '\n' :: rest => '\n' :: normalizeLines rest
  | '\r' :: rest => '\n' :: normalizeLines rest
  | c :: rest => c :: normalizeLines rest
  | [] => []

def sourceChars (src : Bytes) : List Char :=
  normalizeLines ((Utf8.decode src).map Utf8Piece.shown)

def compile (src : Bytes) : Except Bytes (Option Program) :=
  if Blank.isAllBlank src then .ok none
  else
    let chars := sourceChars src
    let fuel := 16 * (chars.length + 8)
    match Node.parse chars with
    | .error e => .error (compileFailure src chars e)
    | .ok tree =>
      match Node.typeOf fuel TitleEnv.types tree with
      | .error e => .error (compileFailure src chars e)
      | .ok _ =>
        match tree.simplify fuel (Node.intLookups fuel TitleEnv.types tree) with
        | .error e => .error (compileFailure src chars e)
        | .ok simple => .ok (some ⟨src, simple⟩)

def value (p : Program) (env : TitleEnv) : Except Located Value :=
  Node.eval (16 * ((sourceChars p.source).length + 8)) env.variables p.tree

/-- The expression machine: the value of a program on an environment, or the message of the
failure with its position marked. -/
def machine (p : Program) (env : TitleEnv) : Except Bytes Value :=
  (p.value env).mapError (Located.render (sourceChars p.source))

/-- Evaluates a program with the machine `run`: a string value is the title, nil is refused,
any other value is written out. -/
def eval (run : Program → TitleEnv → Except Bytes Value) (p : Program) (env : TitleEnv) :
    Except Bytes Bytes :=
  match run p env with
  | .error e =>
    .error (Bytes.ofString "failed to evaluate title expression " ++ quoted p.source ++
      Bytes.ofString ": " ++ e)
  | .ok .nil => .error (Bytes.ofString "title expression returned nil")
  | .ok (.str s) => .ok s
  | .ok v => .ok v.print

def run (p : Program) (env : TitleEnv) : Except Bytes Bytes := p.eval machine env

end Program

end Expr

end ProcessTitle
