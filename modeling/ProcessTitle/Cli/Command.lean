import ProcessTitle.Cli.Help

/-!
# Commands

The program's own command, the hidden request for completions and `completion` with its shell
scripts; the last two exist only in runs that call them.
-/

namespace ProcessTitle

namespace Cli

/-- The shells that completion scripts are written for, in the order help lists them. -/
inductive Shell where
  | bash
  | fish
  | powershell
  | zsh
deriving DecidableEq, Repr

namespace Shell

def all : List Shell := [.bash, .fish, .powershell, .zsh]

def name : Shell → String
  | .bash => "bash"
  | .fish => "fish"
  | .powershell => "powershell"
  | .zsh => "zsh"

/-- How to load the script of a shell, the body of its command's help. -/
def instructions : Shell → List String
  | .bash =>
    ["Generate the autocompletion script for the bash shell.", "",
     "This script depends on the 'bash-completion' package.",
     "If it is not installed already, you can install it via your OS's package manager.", "",
     "To load completions in your current shell session:", "",
     "\tsource <(proctitle completion bash)", "",
     "To load completions for every new session, execute once:", "",
     "#### Linux:", "",
     "\tproctitle completion bash > /etc/bash_completion.d/proctitle", "",
     "#### macOS:", "",
     "\tproctitle completion bash > $(brew --prefix)/etc/bash_completion.d/proctitle", "",
     "You will need to start a new shell for this setup to take effect."]
  | .zsh =>
    ["Generate the autocompletion script for the zsh shell.", "",
     "If shell completion is not already enabled in your environment you will need",
     "to enable it.  You can execute the following once:", "",
     "\techo \"autoload -U compinit; compinit\" >> ~/.zshrc", "",
     "To load completions in your current shell session:", "",
     "\tsource <(proctitle completion zsh)", "",
     "To load completions for every new session, execute once:", "",
     "#### Linux:", "",
     "\tproctitle completion zsh > \"$\x7bfpath[1]\x7d/_proctitle\"", "",
     "#### macOS:", "",
     "\tproctitle completion zsh > $(brew --prefix)/share/zsh/site-functions/_proctitle", "",
     "You will need to start a new shell for this setup to take effect."]
  | .fish =>
    ["Generate the autocompletion script for the fish shell.", "",
     "To load completions in your current shell session:", "",
     "\tproctitle completion fish | source", "",
     "To load completions for every new session, execute once:", "",
     "\tproctitle completion fish > ~/.config/fish/completions/proctitle.fish", "",
     "You will need to start a new shell for this setup to take effect."]
  | .powershell =>
    ["Generate the autocompletion script for powershell.", "",
     "To load completions in your current shell session:", "",
     "\tproctitle completion powershell | Out-String | Invoke-Expression", "",
     "To load completions for every new session, add the output of the above command",
     "to your powershell profile."]

end Shell

/-- The commands of the program. -/
inductive Command where
  /-- The program's own command, which sets the title. -/
  | main
  /-- The hidden request for completions of a command line. -/
  | request
  /-- The command that groups the completion scripts. -/
  | completion
  /-- The command that prints the completion script of a shell. -/
  | script (shell : Shell)
deriving DecidableEq, Repr

def noDescriptionsFlag : Flag :=
  ⟨"no-descriptions", none, .switch, "disable completion descriptions"⟩

def requestWithoutDescriptions : String := "__completeNoDesc"

namespace Command

def name : Command → String
  | .main => commandName
  | .request => "__complete"
  | .completion => "completion"
  | .script s => s.name

/-- Whether a word calls the command, by its name or (for the request) its other name. -/
def calledBy (c : Command) (word : Bytes) : Bool :=
  word == Bytes.ofString c.name ||
    (c == .request && word == Bytes.ofString requestWithoutDescriptions)

def path : Command → String
  | .main => commandName
  | .request => commandName ++ " __complete"
  | .completion => commandName ++ " completion"
  | .script s => commandName ++ " completion " ++ s.name

def short : Command → String
  | .main => "Set this process's title from its command line and show the result"
  | .request => "Request shell completion choices for the specified command-line"
  | .completion => "Generate the autocompletion script for the specified shell"
  | .script s => "Generate the autocompletion script for " ++ s.name

def declared : Command → List Flag
  | .main => ownFlags
  | .request => []
  | .completion => []
  | .script _ => [noDescriptionsFlag]

/-- The flags a command reads when it runs: its own, help, and for the program its version,
ordered by name. -/
def flags : Command → List Flag
  | .main => Cli.flags
  | .request => [helpFlag "__complete"]
  | .completion => [helpFlag "completion"]
  | .script s => [helpFlag s.name, noDescriptionsFlag]

def runs : Command → Bool
  | .completion => false
  | _ => true

end Command

/-- Which commands a run has besides the program's own: the request, `completion`, and the
shells under `completion`. -/
structure Present where
  request : Bool
  completion : Bool
  shells : Bool

namespace Command

def children (present : Present) : Command → List Command
  | .main =>
    (if present.request then [.request] else []) ++ (if present.completion then [.completion] else [])
  | .completion => if present.shells then Shell.all.map .script else []
  | _ => []

def listed : Command → Bool
  | .request => false
  | _ => true

end Command

def isSwitchName (fs : List Flag) (name : Bytes) : Bool :=
  (longFlag fs name).any (·.kind == .switch)

/-- Whether a word is a flag that takes the next word as its value: `--name` or `-x` without
`=`, naming no switch among `fs` (an unknown flag counts as taking a value). -/
def takesNext (fs : List Flag) (w : Bytes) : Bool :=
  if w.any (· == 61) then false
  else match w with
    | 45 :: 45 :: name => !isSwitchName fs name
    | [45, c] => !(shortFlag fs c).any (·.kind == .switch)
    | _ => false

/-- The words of a command line that may name subcommands: flags are left out with the values
they take, and `--` ends the search, as does a flag taking a value among the last two
words. -/
def commandWords (fs : List Flag) : List Bytes → List Bytes
  | [] => []
  | w :: rest =>
    if w == [45, 45] then []
    else if takesNext fs w then
      match rest with
      | [] | [_] => []
      | _ :: more => commandWords fs more
    else if !w.isEmpty && w.head? != some 45 then w :: commandWords fs rest
    else commandWords fs rest

/-- The command line without the first word equal to `x` that is not a flag nor a flag's
value, looking no further than `--`. -/
def withoutFirst (fs : List Flag) (x : Bytes) : List Bytes → List Bytes
  | [] => []
  | w :: rest =>
    if w == [45, 45] then w :: rest
    else if takesNext fs w then
      match rest with
      | [] => [w]
      | v :: more => w :: v :: withoutFirst fs x more
    else if w.head? != some 45 && w == x then rest
    else w :: withoutFirst fs x rest

/-- The command a command line calls in a run, the words that go to it, and the word that
called it (empty for the program's own command). Matching goes at most `fuel` levels deep. -/
def findCommand (present : Present) : Nat → Command → List Bytes → Bytes → Command × List Bytes × Bytes
  | 0, c, args, called => (c, args, called)
  | fuel + 1, c, args, called =>
    match commandWords c.declared args with
    | [] => (c, args, called)
    | next :: _ =>
      match (c.children present).find? (·.calledBy next) with
      | some sub => findCommand present fuel sub (withoutFirst c.declared next args) next
      | none => (c, args, called)

def Present.find (present : Present) (args : List Bytes) : Command × List Bytes × Bytes :=
  findCommand present 3 .main args []

/-- The commands of a run with the given arguments: the request when the line calls it, and
`completion` when the line calls it or asks to complete one of its words. -/
def Present.ofArgs (args : List Bytes) : Present :=
  let withRequest : Present := ⟨true, false, false⟩
  let request := (withRequest.find args).1 == .request
  let (c, rest, _) := Present.find ⟨request, true, false⟩ args
  let completion := c == .completion ||
    (c == .request && rest.length > 1 && rest.head? == some (Bytes.ofString "completion"))
  ⟨request, completion, true⟩

/-- The help lines of a set of flags: names, the value's kind for a flag that takes one, and
the help line, all help lines starting in one column three spaces after the longest names. -/
def flagLinesOf (fs : List Flag) : List String :=
  let width := (fs.map fun f => f.names.length).foldl max 0
  fs.map fun f => f.names ++ String.ofList (List.replicate (width - f.names.length + 3) ' ') ++ f.usage

/-- The help text of one of the completion commands: its description, its usage, its
subcommands, its flags, and for a command with subcommands where to ask for more. -/
def Command.helpText (present : Present) (c : Command) : String :=
  let subs := (c.children present).filter (·.listed)
  let description := match c with
    | .script s => s.instructions
    | _ =>
      ["Generate the autocompletion script for " ++ commandName ++ " for the specified shell.",
       "See each sub-command's help for details on how to use the generated script."]
  let useLine := match c with
    | .script .bash => [c.path]
    | _ => [c.path ++ " [flags]"]
  let usage := (if c.runs then useLine else []) ++ (if subs.isEmpty then [] else [c.path ++ " [command]"])
  let commands := if subs.isEmpty then []
    else ["", "Available Commands:"] ++ subs.map fun s =>
      "  " ++ s.name ++ String.ofList (List.replicate (11 - min 11 s.name.length) ' ') ++ " " ++ s.short
  let more := if subs.isEmpty then []
    else ["", "Use \"" ++ c.path ++ " [command] --help\" for more information about a command."]
  String.intercalate "\n" (description ++ ["", "Usage:"] ++ usage.map ("  " ++ ·) ++ commands ++
    ["", "Flags:"] ++ flagLinesOf c.flags ++ more) ++ "\n"

end Cli

end ProcessTitle
