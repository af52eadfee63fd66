import ProcessTitle.Config.Vars
import ProcessTitle.Text.Quoted

/-!
# Command-line flags

Long and bundled short flags mixed with plain arguments, `--` ending the flags; the first
problem ends the reading with its message.
-/

namespace ProcessTitle

namespace Cli

inductive FlagKind where
  | text
  | switch
deriving DecidableEq, Repr

/-- A flag: its long name, its one-letter name if it has one, its kind and its help line. -/
structure Flag where
  name : String
  short : Option Char
  kind : FlagKind
  usage : String
deriving Repr

def helpFlag (command : String) : Flag := ⟨"help", some 'h', .switch, "help for " ++ command⟩

def ownFlags : List Flag :=
  [⟨"format", some 'f', .text, "title expression, overrides PROCTITLE_FORMAT"⟩,
   ⟨"hold", none, .switch, "keep running until SIGINT or SIGTERM"⟩,
   ⟨"no-exe", none, .switch, "keep argv[0] instead of the resolved executable"⟩,
   ⟨"show", some 's', .switch, "print cmdline, comm and exe as /proc reports them"⟩]

def sortFlags (fs : List Flag) : List Flag := fs.mergeSort fun a b => a.name ≤ b.name

/-- The program command's flags with help and version, ordered by name as help lists
them. -/
def flags : List Flag :=
  [⟨"format", some 'f', .text, "title expression, overrides PROCTITLE_FORMAT"⟩,
   helpFlag "proctitle",
   ⟨"hold", none, .switch, "keep running until SIGINT or SIGTERM"⟩,
   ⟨"no-exe", none, .switch, "keep argv[0] instead of the resolved executable"⟩,
   ⟨"show", some 's', .switch, "print cmdline, comm and exe as /proc reports them"⟩,
   ⟨"version", some 'v', .switch, "version for proctitle"⟩]

def longFlag (fs : List Flag) (name : Bytes) : Option Flag :=
  fs.find? fun f => Bytes.ofString f.name == name

def shortFlag (fs : List Flag) (c : UInt8) : Option Flag :=
  fs.find? fun f => f.short.map Bytes.byte == some c

def Flag.title (f : Flag) : String :=
  match f.short with
  | some c => "-" ++ c.toString ++ ", --" ++ f.name
  | none => "--" ++ f.name

/-- What reading a command line found: the flags it set with their values, in order, and the
arguments that are not flags. -/
structure Reading where
  set : List (String × Bytes) := []
  rest : List Bytes := []
deriving Repr

namespace Reading

/-- Gives a flag its value: text as it is, a switch's value only when it reads as a
boolean. -/
def assign (r : Reading) (f : Flag) (value : Bytes) : Except Bytes Reading :=
  let r' := { r with set := r.set ++ [(f.name, value)] }
  match f.kind with
  | .text => .ok r'
  | .switch =>
    match Config.parseBool value with
    | .ok _ => .ok r'
    | .error e =>
      .error (Bytes.ofString "invalid argument " ++ Quoted.quote value ++ Bytes.ofString " for " ++
        Quoted.quote (Bytes.ofString f.title) ++ Bytes.ofString " flag: " ++ Bytes.ofString e)

def value? (r : Reading) (name : String) : Option Bytes :=
  (r.set.reverse.find? fun (n, _) => n == name).map (·.2)

def changed (r : Reading) (name : String) : Bool := (r.value? name).isSome

def switch (r : Reading) (name : String) : Bool :=
  match r.value? name with
  | some v => (Config.parseBool v).toOption.getD false
  | none => false

end Reading

def switchOn : Bytes := Bytes.ofString "true"

def startsWith (s pre : Bytes) : Bool := s.take pre.length == pre

/-- Reads a bundle of one-letter flags (the argument without its dash); `bundle` is what is
left of it and `next` the argument after it. The reading, and whether the bundle took that
argument as a value. -/
def readBundle (fs : List Flag) (bundle : Bytes) (next : Option Bytes) (r : Reading) :
    Except Bytes (Reading × Bool) :=
  match bundle with
  | [] => .ok (r, false)
  | c :: more =>
    if startsWith bundle (Bytes.ofString "test.") then .ok (r, false)
    else
      match shortFlag fs c with
      | none =>
        .error (Bytes.ofString "unknown shorthand flag: " ++ Quoted.quoteRune (Char.ofNat c.toNat) ++
          Bytes.ofString " in -" ++ bundle)
      | some f =>
        match more with
        | 61 :: value@(_ :: _) => (r.assign f value).map (·, false)
        | _ =>
          if f.kind == .switch then do
            let r ← r.assign f switchOn
            readBundle fs more next r
          else if !more.isEmpty then (r.assign f more).map (·, false)
          else
            match next with
            | some value => (r.assign f value).map (·, true)
            | none =>
              .error (Bytes.ofString "flag needs an argument: " ++
                Quoted.quoteRune (Char.ofNat c.toNat) ++ Bytes.ofString " in -" ++ bundle)

/-- Reads a long flag (`arg` is the whole argument, `body` what follows its two dashes);
`next` is the argument after it. The reading, and whether the flag took that argument as its
value. -/
def readLong (fs : List Flag) (arg body : Bytes) (next : Option Bytes) (r : Reading) :
    Except Bytes (Reading × Bool) :=
  match body with
  | [] | 45 :: _ | 61 :: _ => .error (Bytes.ofString "bad flag syntax: " ++ arg)
  | _ =>
    let (name, given) := match Bytes.cut 61 body with
      | some (n, v) => (n, some v)
      | none => (body, none)
    match longFlag fs name with
    | none => .error (Bytes.ofString "unknown flag: --" ++ name)
    | some f =>
      match given, f.kind, next with
      | some v, _, _ => (r.assign f v).map (·, false)
      | none, .switch, _ => (r.assign f switchOn).map (·, false)
      | none, .text, some value => (r.assign f value).map (·, true)
      | none, .text, none => .error (Bytes.ofString "flag needs an argument: " ++ arg)

/-- Reads a command line against a set of flags: flags and plain arguments mixed, `--` ending
the flags. A failure comes with what was read before it. -/
def readArgs (fs : List Flag) : List Bytes → Reading → Except (Bytes × Reading) Reading
  | [], r => .ok r
  | arg :: more, r =>
    match arg with
    | [45, 45] => .ok { r with rest := r.rest ++ more }
    | 45 :: 45 :: body =>
      match readLong fs arg body more.head? r with
      | .error e => .error (e, r)
      | .ok (r, true) => readArgs fs (more.drop 1) r
      | .ok (r, false) => readArgs fs more r
    | 45 :: c :: bundle =>
      match readBundle fs (c :: bundle) more.head? r with
      | .error e => .error (e, r)
      | .ok (r, true) => readArgs fs (more.drop 1) r
      | .ok (r, false) => readArgs fs more r
    | _ => readArgs fs more { r with rest := r.rest ++ [arg] }
termination_by args => args.length
decreasing_by all_goals simp only [List.length_drop, List.length_cons]; omega

def readWith (fs : List Flag) (args : List Bytes) : Except Bytes Reading :=
  (readArgs fs args {}).mapError (·.1)

structure Options where
  format : Bytes := []
  noExe : Bool := false
  report : Bool := false
  hold : Bool := false
  help : Bool := false
  version : Bool := false
  rest : List Bytes := []
deriving Repr

def Options.ofReading (r : Reading) : Options :=
  { format := (r.value? "format").getD [], noExe := r.switch "no-exe", report := r.switch "show",
    hold := r.switch "hold", help := r.switch "help", version := r.switch "version",
    rest := r.rest }

/-- Reads the program's command line into options, or the message of its first problem. -/
def parse (args : List Bytes) : Except Bytes Options :=
  (readWith flags args).map Options.ofReading

example : (parse [Bytes.ofString "-s", Bytes.ofString "x"]).toOption.map (·.report) = some true := by
  decide +kernel

end Cli

end ProcessTitle
