import ProcessTitle.ArgBlock
import ProcessTitle.ThreadName
import ProcessTitle.Title
import ProcessTitle.Expr.Program
import ProcessTitle.Text.Quoted

/-!
# Titlers

A titler builds a title from a command line and applies it through a setter; everything it does
is returned as data.
-/

namespace ProcessTitle

/-- A call a recording setter received. -/
inductive SetterCall where
  | init (args : List Bytes)
  | setTitle (text program : Bytes)
  | setShortName (name : Bytes)
deriving DecidableEq, Repr

/-- A setter, as far as its effects go. -/
inductive Setter where
  /-- A setter that records its calls; it may also take the arguments first and keep a short
  name. -/
  | recorder (initializer shortNamer : Bool)
  /-- The argument-block setter: the area it has captured, if any, and the area of the
  process's own argument vector when that is the vector it is handed, which the first
  initialization captures. It keeps a short name (the thread name). -/
  | argv (area startup : Option ArgArea)
deriving Repr

namespace Setter

def name : Setter → String
  | .recorder _ _ => "recorder"
  | .argv _ _ => "argv"

def isShortNamer : Setter → Bool
  | .recorder _ sn => sn
  | .argv _ _ => true

def isInitializer : Setter → Bool
  | .recorder initializer _ => initializer
  | .argv _ _ => true

/-- Hands the arguments to a setter before a title is applied: a recording initializer
records them, and the argument-block setter captures the process's own vector once. -/
def init (setter : Setter) (args : List Bytes) (calls : List SetterCall) : Setter × List SetterCall :=
  match setter with
  | .recorder true sn => (.recorder true sn, calls ++ [.init args])
  | .recorder false sn => (.recorder false sn, calls)
  | .argv area startup => (.argv (area <|> startup) none, calls)

end Setter

structure Span where
  name : String
  attrs : List (String × Bytes)
deriving Repr

/-- What applying titles changed: the argument block, the thread name, the calls a recording
setter saw, the debug messages, and the finished spans. -/
structure Effects where
  block : Bytes
  comm : Bytes
  calls : List SetterCall := []
  log : List Bytes := []
  spans : List Span := []

/-- What a titler takes from outside: symbolic links, the environment's `NAME=value` entries,
the process id, and the expression machine that runs a format. -/
structure Host where
  readLink : Bytes → Option Bytes
  environ : List Bytes
  pid : Int
  evaluate : Expr.Program → Expr.TitleEnv → Except Bytes Expr.Value

structure Titler where
  exeLink : Bytes
  format : Option Expr.Program := none
  disabled : Bool := false
  debug : Bool := false

namespace Titler

def debugMessage (t : Titler) (msg : Bytes) : List Bytes :=
  if t.debug then [Bytes.ofString "proctitle: " ++ msg] else []

/-- Builds the title for `args` without applying it; also the debug messages. -/
def build (t : Titler) (host : Host) (args : List Bytes) : Title × List Bytes :=
  let exe := Executable.resolve host.readLink t.exeLink
  let unresolved := if exe.isNone && !t.exeLink.isEmpty then
      t.debugMessage (Bytes.ofString "cannot resolve " ++ t.exeLink ++
        Bytes.ofString ", keeping command line only")
    else []
  let title := Title.build args (exe.getD [])
  match t.format with
  | none => (title, unresolved)
  | some p =>
    let env : Expr.TitleEnv :=
      { args := args, exe := title.program, title := title.text,
        environ := Environ.ofEntries host.environ, pid := host.pid }
    match p.eval host.evaluate env with
    | .ok text => ({ title with text := text }, unresolved)
    | .error msg =>
      (title, unresolved ++ t.debugMessage (msg ++ Bytes.ofString ", using " ++ Quoted.quote title.text))

def apply (setter : Setter) (title : Title) (fx : Effects) : Effects :=
  match setter with
  | .recorder _ _ => { fx with calls := fx.calls ++ [.setTitle title.text title.program] }
  | .argv none _ => fx
  | .argv (some area) _ => { fx with block := area.write fx.block (title.display area.first) }

def applyShortName (setter : Setter) (name : Bytes) (fx : Effects) : Effects :=
  match setter with
  | .recorder _ _ => { fx with calls := fx.calls ++ [.setShortName name] }
  | .argv _ _ => { fx with comm := ThreadName.set fx.comm name }

/-- Builds the title for `args` and applies it with the short name; the applied title (the
empty title when disabled), the setter as the initialization left it, and the effects. -/
def setFromCommandLine (t : Titler) (setter : Setter) (host : Host) (args : List Bytes)
    (fx : Effects) : Title × Setter × Effects :=
  if t.disabled then (Title.empty, setter, fx)
  else
    let (setter, calls) := setter.init args fx.calls
    let fx := { fx with calls := calls }
    let (title, log) := t.build host args
    let fx := apply setter title { fx with log := fx.log ++ log }
    let shortName := if setter.isShortNamer && title.hasProgram then title.shortName else []
    let fx := if setter.isShortNamer && title.hasProgram then applyShortName setter shortName fx else fx
    let span : Span :=
      { name := "proctitle.set",
        attrs := [("proctitle.title", title.text), ("proctitle.program", title.program),
          ("proctitle.short_name", shortName), ("proctitle.setter", Bytes.ofString setter.name)] }
    let done := t.debugMessage (Bytes.ofString "title set to " ++ Quoted.quote title.text ++
      Bytes.ofString " via " ++ Bytes.ofString setter.name)
    (title, setter, { fx with log := fx.log ++ done, spans := fx.spans ++ [span] })

theorem setFromCommandLine_disabled (t : Titler) (setter : Setter) (host : Host)
    (args : List Bytes) (fx : Effects) (h : t.disabled = true) :
    t.setFromCommandLine setter host args fx = (Title.empty, setter, fx) := by
  simp [setFromCommandLine, h]

end Titler

/-- A step of a run over a captured area: a raw write of bytes, or a title applied through the
argument-block setter. -/
inductive AreaStep where
  | raw (s : Bytes)
  | setTitle (t : Title)

namespace AreaStep

def text (first : Bytes) : AreaStep → Bytes
  | raw s => s
  | setTitle t => t.display first

def perform (a : ArgArea) (fx : Effects) : AreaStep → Effects
  | raw s => { fx with block := a.write fx.block s }
  | setTitle t => Titler.apply (.argv (some a) none) t fx

end AreaStep

def ArgArea.run (a : ArgArea) : Effects → List AreaStep → Effects
  | fx, [] => fx
  | fx, step :: steps => a.run (step.perform a fx) steps

end ProcessTitle
