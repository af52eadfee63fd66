import ProcessTitle.Cli.Completion
import ProcessTitle.Library
import ProcessTitle.Tracing

/-!
# Running the command

The command initializes the library, reads its flags and settings, sets its title from its full
argument vector and reports on request; log messages go to standard error.
-/

namespace ProcessTitle

namespace Cli

/-- What a run produced: the exit code, the text written to standard output and to standard
error, the process as it was while holding, the exports that arrived, and the process's final
state. -/
structure Outcome where
  exitCode : Nat
  stdout : Bytes
  stderr : Bytes
  held : Option ProcRecord := none
  exported : List Tracing.ExportRequest := []
  state : Effects

def logText (msgs : List Bytes) : Bytes :=
  msgs.flatMap fun m => if m.getLast? == some 10 then m else m ++ [10]

def fatal (log : List Bytes) (err : Bytes) (state : Effects) : Outcome :=
  { exitCode := 1, stdout := [], stderr := logText (log ++ [Bytes.ofString "Error: " ++ err]),
    state := state }

/-- The title settings of the environment with the flags' overrides: a non-empty expression
replaces the format, `--no-exe` turns the executable link off. -/
def settings (opts : Options) (c : Config.TitleSettings) : Config.TitleSettings :=
  let c := if opts.format.isEmpty then c else { c with format := opts.format }
  if opts.noExe then { c with exeLink := [] } else c

/-- The report of `--show`: the process id, the command line, the thread name and the
executable as the process file system reports them. -/
def report (r : ProcRecord) : Bytes :=
  Bytes.ofString ("pid:     " ++ toString r.pid ++ "\n") ++
  Bytes.ofString "cmdline: " ++ r.cmdlineFull ++ [10] ++
  Bytes.ofString "comm:    " ++ r.comm ++ [10] ++
  Bytes.ofString "exe:     " ++ r.exe ++ [10]

/-- Runs the command with its options in the process, after the library was initialized. -/
def execute (p : Proc) (net : Tracing.Network) (lib : Library) (opts : Options)
    (fx : Effects) : Outcome :=
  match Config.TitleSettings.read p.vars with
  | .error e => fatal [] (Bytes.ofString e) fx
  | .ok c =>
    let c := settings opts c
    let telemetry := Config.TelemetrySettings.read p.vars
    let (exporter, log) :=
      if telemetry.enabled then
        let (e, log) := Tracing.Exporter.start telemetry p.vars (Bytes.ofString versionInfo)
        (some e, log)
      else (none, [])
    match Titler.fromSettings c with
    | .error m => fatal log m fx
    | .ok t =>
      let (title, _, fx) := t.setFromCommandLine lib.setter p.host p.args fx
      let (exported, exportLog) := match exporter with
        | some e => e.sendAll net fx.spans
        | none => ([], [])
      let log := log ++ fx.log ++ exportLog ++
        [Bytes.ofString "Title set via argv: " ++ Quoted.quote title.text]
      let record := p.inspect fx
      let shown := if opts.report then report record else []
      let holding := if opts.hold then
          Bytes.ofString ("Holding as PID " ++ toString p.pid ++ ", interrupt to exit...\n")
        else []
      { exitCode := 0, stdout := shown ++ holding, stderr := logText log,
        held := if opts.hold then some record else none, exported := exported, state := fx }

/-- The arguments the flags are read from: all but `argv[0]`, or none when the command runs
under the name of a test binary (`cobra.test`). -/
def flagArgs (args : List Bytes) : List Bytes :=
  if Path.base (args.headD []) == Bytes.ofString "cobra.test" then [] else args.drop 1

def printing (text : String) (state : Effects) : Outcome :=
  { exitCode := 0, stdout := Bytes.ofString text, stderr := [], state := state }

/-- Runs the program's own command in a process whose exports go over the given network. -/
def runMain (p : Proc) (net : Tracing.Network) (args : List Bytes) : Outcome :=
  let lib := (Library.start p).init p
  let fx := p.initial
  match parse args with
  | .error e => fatal [] e fx
  | .ok opts =>
    if opts.help then printing helpText fx
    else if opts.version then printing versionText fx
    else execute p net lib opts fx

/-- Runs one of the completion commands with the words that go to it, in a run with the given
commands; `called` is the word that called it. -/
def runCompletion (p : Proc) (present : Present) (c : Command) (args : List Bytes) (called : Bytes) :
    Outcome :=
  let fx := p.initial
  match c with
  | .request =>
    if args.isEmpty then fatal [] (Bytes.ofString "requires at least 1 arg(s), only received 0") fx
    else
      let describe := called != Bytes.ofString requestWithoutDescriptions && descriptionsWanted p.vars
      let (out, err) := (complete present args).render describe
      { exitCode := 0, stdout := out, stderr := err, state := fx }
  | _ =>
    match readWith c.flags args with
    | .error e => fatal [] e fx
    | .ok r =>
      match c with
      | .script s =>
        if r.switch "help" then printing (c.helpText present) fx
        else
          match r.rest with
          | w :: _ =>
            fatal [] (Bytes.ofString "unknown command " ++ Quoted.quote w ++ Bytes.ofString " for " ++
              Quoted.quote (Bytes.ofString c.path)) fx
          | [] => printing (s.script !(r.switch "no-descriptions")) fx
      | _ => printing (c.helpText present) fx

/-- Runs the command in a process whose exports go over the given network. -/
def run (p : Proc) (net : Tracing.Network) : Outcome :=
  let args := flagArgs p.args
  let present := Present.ofArgs args
  match present.find args with
  | (.main, _, _) => runMain p net args
  | (c, rest, called) => runCompletion p present c rest called

end Cli

end ProcessTitle
