import ProcessTitle.Proc.Started
import ProcessTitle.Config.Vars

/-!
# The library inside a process

One argument-block setter and one default titler, built from the `PROCTITLE_*` variables on
first use; settings that cannot be read are logged and replaced by the platform's defaults.
-/

namespace ProcessTitle

namespace Titler

def ofSettings (c : Config.TitleSettings) (format : Option Expr.Program) : Titler :=
  { exeLink := c.exeLink, format := format, disabled := c.disabled, debug := c.debug }

def fromSettings (c : Config.TitleSettings) : Except Bytes Titler :=
  match Expr.Program.compile c.format with
  | .error m => .error (Bytes.ofString "PROCTITLE_FORMAT: " ++ m)
  | .ok format => .ok (ofSettings c format)

def platform : Titler := { exeLink := Executable.defaultLink }

/-- The default titler of an environment, and the message logged when its settings were
replaced by the platform's defaults. -/
def ofEnvironment (vars : Config.Vars) : Titler × List Bytes :=
  let fallback (msg : Bytes) : Titler × List Bytes :=
    (platform, [Bytes.ofString "proctitle: " ++ msg ++ Bytes.ofString ", using defaults"])
  match Config.TitleSettings.read vars with
  | .error e => fallback (Bytes.ofString e)
  | .ok c =>
    match fromSettings c with
    | .error m => fallback m
    | .ok t => (t, [])

end Titler

/-- The library's state in a process: the platform setter, and the default titler once it
has been built. -/
structure Library where
  setter : Setter
  default? : Option Titler := none

namespace Library

/-- The library in a freshly started process: nothing captured, no default titler yet. -/
def start (p : Proc) : Library := { setter := .argv none p.startupArea }

def init (lib : Library) (p : Proc) : Library :=
  { lib with setter := (lib.setter.init p.args []).1 }

/-- The default titler, built on first use; also the messages its building logged. -/
def defaultTitler (lib : Library) (p : Proc) : Library × Titler × List Bytes :=
  match lib.default? with
  | some t => (lib, t, [])
  | none =>
    let (t, log) := Titler.ofEnvironment p.vars
    ({ lib with default? := some t }, t, log)

/-- Sets the title from the process's arguments through the default titler. -/
def setFromCommandLine (lib : Library) (p : Proc) (fx : Effects) : Library × Effects :=
  let (lib, t, log) := lib.defaultTitler p
  let (_, setter, fx) := t.setFromCommandLine lib.setter p.host p.args { fx with log := fx.log ++ log }
  ({ lib with setter := setter }, fx)

theorem defaultTitler_built (lib : Library) (p : Proc) :
    ((lib.defaultTitler p).1.defaultTitler p).2.2 = [] := by
  unfold defaultTitler
  rcases h : lib.default? with _ | t <;> simp [h]

end Library

/-- A process that uses the library's defaults: it initializes the library with its arguments
unless told not to, sets its title from them, does both again when told to, and is left in the
returned state. -/
def Proc.useDefaults (p : Proc) (init twice : Bool) : Effects :=
  let round (state : Library × Effects) : Library × Effects :=
    let lib := if init then state.1.init p else state.1
    lib.setFromCommandLine p state.2
  let once := round (Library.start p, p.initial)
  (if twice then round once else once).2

end ProcessTitle
