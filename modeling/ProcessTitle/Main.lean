import ProcessTitle.Cli.Run

/-!
# The command-line program
-/

namespace ProcessTitle

namespace Command

def nulEntries (raw : Bytes) : List Bytes := (Cmdline.split raw).getD []

/-- The process id at the start of the process's status line. -/
def statPid (raw : Bytes) : Int :=
  (raw.takeWhile fun b => 48 ≤ b && b ≤ 57).foldl (fun n b => 10 * n + (b.toNat - 48 : Nat)) 0

def readOrEmpty (path : String) : IO Bytes := do
  try
    let data ← IO.FS.readBinFile path
    pure data.toList
  catch _ => pure []

def resolveLink (path : Bytes) : IO (Option (Bytes × Bytes)) := do
  if path.isEmpty then return none
  try
    let target ← IO.FS.realPath ⟨Utf8.toText path⟩
    pure (some (path, Bytes.ofString target.toString))
  catch _ => pure none

partial def holdOn : IO Unit := do
  IO.sleep 1000
  holdOn

end Command

end ProcessTitle

open ProcessTitle ProcessTitle.Command

def main : IO UInt32 := do
  let args := nulEntries (← readOrEmpty "/proc/self/cmdline")
  let environ := (nulEntries (← readOrEmpty "/proc/self/environ")).filterMap Environ.entry?
  let pid := statPid (← readOrEmpty "/proc/self/stat")
  let exe := Bytes.ofString (← IO.appPath).toString
  let link := (Config.lookup environ "PROCTITLE_EXE_LINK").getD []
  let links := (← resolveLink link).toList
  let p : Proc := { args := args, exe := exe, environ := environ, pid := pid, links := links }
  let outcome := Cli.run p fun _ => some (Bytes.ofString "connect: network is unreachable")
  let out ← IO.getStdout
  let err ← IO.getStderr
  out.write (ByteArray.mk outcome.stdout.toArray)
  out.flush
  err.write (ByteArray.mk outcome.stderr.toArray)
  err.flush
  if outcome.held.isSome then holdOn
  pure outcome.exitCode.toUInt32
