import ProcessTitle.Cli.Flags

/-!
# Help and version texts
-/

namespace ProcessTitle

namespace Cli

def commandName : String := "proctitle"

def version : String := "dev"

def commit : String := "unknown"

def buildDate : String := "unknown"

def description : List String :=
  ["proctitle sets its own process title the way the library does for any",
   "program: argv[0] is replaced by the resolved executable and the remaining",
   "arguments follow. Use --show to print what /proc reports afterwards and",
   "--hold to keep running so ps and top can be inspected."]

def usageLine : String := "proctitle [flags] [-- args...]"

def Flag.names (f : Flag) : String :=
  let names := match f.short with
    | some c => "  -" ++ c.toString ++ ", --" ++ f.name
    | none => "      --" ++ f.name
  match f.kind with
  | .text => names ++ " string"
  | .switch => names

def flagLines : List String :=
  let width := (flags.map fun f => f.names.length).foldl max 0
  flags.map fun f => f.names ++ String.ofList (List.replicate (width - f.names.length + 3) ' ') ++ f.usage

def helpText : String :=
  String.intercalate "\n" (description ++ ["", "Usage:", "  " ++ usageLine, "", "Flags:"] ++ flagLines) ++ "\n"

def versionText : String :=
  commandName ++ " version " ++ version ++ " (commit: " ++ commit ++ ", built: " ++ buildDate ++ ")\n"

def versionInfo : String := version ++ " (" ++ commit ++ ")"

end Cli

end ProcessTitle
