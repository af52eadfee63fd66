import ProcessTitle.Text.Quoted
import ProcessTitle.Title

/-!
# Settings from environment variables

A setting is read from one variable; the refusals of all fields are reported together, in field
order, after `env:`.
-/

namespace ProcessTitle

namespace Config

/-- An environment: variable names and values, the last binding of a name winning. -/
abbrev Vars := List (Bytes × Bytes)

def lookup (vars : Vars) (name : String) : Option Bytes :=
  (vars.reverse.find? fun (k, _) => k == Bytes.ofString name).map (·.2)

/-- The value a setting reads: the variable's value, or the default when the variable is
missing or empty and there is a default. A setting without a default is missing only when the
variable is. -/
def read (vars : Vars) (name : String) (default : Option String) : Option Bytes :=
  match lookup vars name, default with
  | none, some d => some (Bytes.ofString d)
  | some v, some d => if v.isEmpty then some (Bytes.ofString d) else some v
  | v, none => v

/-- Reads the spellings `1 t T TRUE true True` and `0 f F FALSE false False`. -/
def parseBool (s : Bytes) : Except String Bool :=
  let t := Utf8.toText s
  if ["1", "t", "T", "TRUE", "true", "True"].contains t && Utf8.valid s then .ok true
  else if ["0", "f", "F", "FALSE", "false", "False"].contains t && Utf8.valid s then .ok false
  else .error ("strconv.ParseBool: parsing " ++ Utf8.toText (Quoted.quote s) ++ ": invalid syntax")

def fieldFailure (field ty : String) (err : String) : String :=
  "parse error on field \"" ++ field ++ "\" of type \"" ++ ty ++ "\": " ++ err

def aggregate (errs : List String) : String :=
  "env: " ++ String.intercalate "; " errs

/-- A boolean setting: its value (false when missing), or the refusal of its field. -/
def readBool (vars : Vars) (name field : String) : Except String Bool :=
  match read vars name (some "false") with
  | none => .ok false
  | some v => (parseBool v).mapError (fieldFailure field "bool")

/-- The `PROCTITLE_*` settings. -/
structure TitleSettings where
  disabled : Bool := false
  exeLink : Bytes := Executable.defaultLink
  format : Bytes := []
  debug : Bool := false
deriving Repr

/-- Reads the title settings, or the message of the refusal. The link defaults to the
platform's link only when its variable is missing: set to the empty string it turns the
resolution off. -/
def TitleSettings.read (vars : Vars) : Except String TitleSettings :=
  let disabled := readBool vars "PROCTITLE_DISABLE" "Disabled"
  let debug := readBool vars "PROCTITLE_DEBUG" "Debug"
  let errs := (match disabled with | .error e => [e] | .ok _ => []) ++
    (match debug with | .error e => [e] | .ok _ => [])
  if !errs.isEmpty then .error ("failed to parse title config: " ++ aggregate errs)
  else
    .ok { disabled := (disabled.toOption).getD false,
          exeLink := (lookup vars "PROCTITLE_EXE_LINK").getD Executable.defaultLink,
          format := (Config.read vars "PROCTITLE_FORMAT" (some "")).getD [],
          debug := (debug.toOption).getD false }

end Config

end ProcessTitle
