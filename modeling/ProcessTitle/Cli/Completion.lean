import ProcessTitle.Cli.Command
import ProcessTitle.Cli.Scripts

/-!
# Completions

The answer to the request for completions: flags, subcommands or file names for the word being
typed, one per line, then a directive.
-/

namespace ProcessTitle

namespace Cli

/-- How a shell is to treat the completions it gets: a set of bits. -/
structure Directive where
  bits : Nat
deriving DecidableEq, Repr

namespace Directive

def default : Directive := ⟨0⟩

def noFileComp : Directive := ⟨4⟩

def noSpace : Directive := ⟨2⟩

def names : List (Nat × String) :=
  [(1, "ShellCompDirectiveError"), (2, "ShellCompDirectiveNoSpace"),
   (4, "ShellCompDirectiveNoFileComp"), (8, "ShellCompDirectiveFilterFileExt"),
   (16, "ShellCompDirectiveFilterDirs"), (32, "ShellCompDirectiveKeepOrder")]

def text (d : Directive) : String :=
  let set := names.filter fun (b, _) => d.bits / b % 2 == 1
  if d.bits ≥ 64 then "ERROR: unexpected ShellCompDirective value: " ++ toString d.bits
  else if set.isEmpty then "ShellCompDirectiveDefault"
  else ", ".intercalate (set.map (·.2))

end Directive

/-- The answer to a request: the completions, each a name perhaps followed by a tab and a
description, the directive, and the message of a failure. -/
structure Completions where
  items : List String
  directive : Directive
  failure : Option String := none

def isFlagWord : Bytes → Bool
  | 45 :: 45 :: _ :: _ => true
  | 45 :: c :: _ => c != 45
  | _ => false

def flagNamed (fs : List Flag) (name : Bytes) : Option Flag :=
  match name with
  | [c] => (shortFlag fs c).bind fun f => longFlag fs (Bytes.ofString f.name)
  | _ => longFlag fs name

def equalsAt (w : Bytes) : Option Nat := w.findIdx? (· == 61)

/-- The flag whose value the word being typed is, if any: named in the word before `=`, or by
the previous word when that is a flag without `=` (which is then left out of the arguments).
Gives the flag, the arguments, the part of the word being completed, and a failure when the
command has no flag of that name. A switch named by the previous word takes no value, so then
no flag's value is being typed. -/
def flagValueTarget (c : Command) (args : List Bytes) (last : Bytes) :
    Option Flag × List Bytes × Bytes × Option String :=
  let dashes := Bytes.ofString "--"
  let named : Option (Bytes × Bytes) :=
    match last.head?, equalsAt last with
    | some 45, some i =>
      let head := last.take i
      some ((if startsWith head dashes then head.drop 2 else head.drop (i - 1)), last.drop (i + 1))
    | _, _ => none
  if last.head? == some 45 && named.isNone then (none, args, last, none)
  else
    let (name, value, withEqual) : Bytes × Bytes × Bool :=
      match named with
      | some (n, v) => (n, v, true)
      | none => ([], last, false)
    let (name, trimmed) : Bytes × List Bytes :=
      if !name.isEmpty then (name, args)
      else match args.getLast? with
        | some prev =>
          if isFlagWord prev && (equalsAt prev).isNone then
            ((if startsWith prev dashes then prev.drop 2 else prev.drop (prev.length - 1)), args.dropLast)
          else (name, args)
        | none => (name, args)
    if name.isEmpty then (none, trimmed, value, none)
    else
      match flagNamed c.flags name with
      | none =>
        (none, args, last,
          some ("Subcommand '" ++ c.name ++ "' does not support flag '" ++ Utf8.toText name ++ "'"))
      | some f =>
        if !withEqual && f.kind == .switch then (none, args, value, none) else (some f, trimmed, value, none)

def flagNameCompletions (f : Flag) (word : Bytes) : List String :=
  let long := "--" ++ f.name
  let longs := if startsWith (Bytes.ofString long) word then [long ++ "\t" ++ f.usage] else []
  let shorts := match f.short with
    | some s =>
      let short := "-" ++ s.toString
      if startsWith (Bytes.ofString short) word then [short ++ "\t" ++ f.usage] else []
    | none => []
  longs ++ shorts

def wordsText (ws : List Bytes) : String := "[" ++ " ".intercalate (ws.map Utf8.toText) ++ "]"

/-- The completions for the words of a command line, the last of which is being typed, in a
run with the given commands. -/
def complete (present : Present) (args : List Bytes) : Completions :=
  let word := args.getLastD []
  -- the request itself is not a command to complete into when it is the only subcommand
  let present := if present.completion then present else { present with request := false }
  let (c, cargs, _) := present.find args.dropLast
  let (flag?, cargs, word, flagFailure) := flagValueTarget c cargs word
  let fs := c.flags
  let countClosed := match readArgs fs (cargs ++ [Bytes.ofString "--"]) {} with
    | .ok r => r.rest.length
    | .error (_, r) => r.rest.length
  match readWith fs cargs with
  | .error e =>
    ⟨[], .default, some ("Error while parsing flags from args " ++ wordsText cargs ++ ": " ++
      Utf8.toText e)⟩
  | .ok reading =>
    -- after `--` every word is an argument, so no flag is being completed
    let flagCompletion := countClosed ≤ reading.rest.length
    match flagFailure.filter fun _ => flagCompletion with
    | some msg => ⟨[], .default, some msg⟩
    | none =>
      if reading.changed "help" || (c == .main && reading.changed "version") then
        ⟨[], .noFileComp, none⟩
      else if flag?.isNone && word.head? == some 45 && (equalsAt word).isNone && flagCompletion then
        let items := fs.flatMap fun f => if reading.changed f.name then [] else flagNameCompletions f word
        let endsOpen := match items with
          | [item] => item.endsWith "="
          | _ => false
        ⟨items, if endsOpen then .noSpace else .noFileComp, none⟩
      else
        let (items, directive) : List String × Directive :=
          if flag?.isSome then ([], .default)
          else
            let flagGiven := fs.any fun f => reading.changed f.name
            if reading.rest.isEmpty && !flagGiven then
              let subs := (c.children present).filter (·.listed)
              let items := (subs.filter fun s => startsWith (Bytes.ofString s.name) word).map
                fun s => s.name ++ "\t" ++ s.short
              (items, if subs.isEmpty then .default else .noFileComp)
            else ([], .default)
        let argumentsOfItsOwn := flag?.isNone || !flagCompletion
        let directive := match c with
          | .completion | .script _ => if argumentsOfItsOwn then .noFileComp else directive
          | _ => directive
        ⟨items, directive, none⟩

/-- Whether completions should carry descriptions, as the environment says: the program's
setting, else the general one, read as a boolean; yes when neither reads. -/
def descriptionsWanted (vars : Config.Vars) : Bool :=
  let setting (name : String) : Option Bytes :=
    match Config.lookup vars name with
    | some v => if v.isEmpty then none else some v
    | none => none
  let v := match setting "PROCTITLE_COMPLETION_DESCRIPTIONS" with
    | some v => some v
    | none => setting "COBRA_COMPLETION_DESCRIPTIONS"
  match v with
  | some v => (Config.parseBool v).toOption.getD true
  | none => true

/-- The line of a completion as printed: without its description when descriptions are not
wanted, its first line only, trimmed. -/
def completionLine (describe : Bool) (item : String) : String :=
  let item := if describe then item else (item.splitOn "\t").headD ""
  ((item.splitOn "\n").headD "").trimAscii.toString

/-- What the request prints: the completions and `:<directive>` on standard output; the
failure, if any, and the directive's name on standard error. -/
def Completions.render (r : Completions) (describe : Bool) : Bytes × Bytes :=
  let out := r.items.map (completionLine describe · ++ "\n")
  let failure := match r.failure with
    | some m => "[Debug] [Error] " ++ m ++ "\n"
    | none => ""
  (Bytes.ofString (String.join out ++ ":" ++ toString r.directive.bits ++ "\n"),
   Bytes.ofString (failure ++ "Completion ended with directive: " ++ r.directive.text ++ "\n"))

def Shell.script (s : Shell) (describe : Bool) : String :=
  let request := if describe then Command.request.name else requestWithoutDescriptions
  match s with
  | .bash => Scripts.bash request
  | .zsh => Scripts.zsh request
  | .fish => Scripts.fish request
  | .powershell => Scripts.powershell request

end Cli

end ProcessTitle
