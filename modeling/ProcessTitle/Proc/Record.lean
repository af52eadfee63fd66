import ProcessTitle.Title
import ProcessTitle.Proc.Environ

/-!
What the process file system reports about one process: its command line, thread name,
executable and environment. Only the command line is required.
-/

namespace ProcessTitle

namespace Cmdline

/-- The parts of a NUL-separated buffer such as a command line: trailing NULs (left where a
shorter title overwrote the argument block) dropped, the rest cut at each NUL; `none` when
nothing is left. -/
def split (raw : Bytes) : Option (List Bytes) :=
  let body := Bytes.trimRight Bytes.nul raw
  if body.isEmpty then none else some (Bytes.splitOnByte Bytes.nul body)

def parse (parts : List Bytes) : List Bytes × Bytes := (parts, Bytes.join [Bytes.space] parts)

def args (raw : Bytes) : List Bytes := ((split raw).getD []).map id

def full (raw : Bytes) : Bytes := (parse (args raw)).2

end Cmdline

structure ProcFiles where
  cmdline : Option Bytes := none
  comm : Option Bytes := none
  environ : Option Bytes := none
  exeTarget : Option Bytes := none
deriving Repr, Inhabited

structure ProcRecord where
  pid : Int
  args : List Bytes
  cmdlineFull : Bytes
  comm : Bytes
  exe : Bytes
  environ : Environ
deriving Repr, Inhabited

inductive ProcError where
  | noCmdline (pid : Int) (path : Bytes)
deriving Repr, Inhabited

namespace ProcError

def message : ProcError → Bytes
  | .noCmdline pid path =>
    Bytes.ofString ("reading cmdline for pid " ++ toString pid ++ ": open ") ++ path ++
      Bytes.ofString ": no such file or directory"

end ProcError

namespace ProcRecord

def commOf (raw : Bytes) : Bytes := Bytes.trimRight (Bytes.byte '\n') raw

/-- Reads the process `pid` whose directory, under the process root `root`, holds `files`. A
missing thread name, executable link or environment leaves its field empty. -/
def read (root : Bytes) (pid : Int) (files : ProcFiles) : Except ProcError ProcRecord :=
  match files.cmdline with
  | none =>
    .error (.noCmdline pid (root ++ Bytes.ofString ("/" ++ toString pid ++ "/cmdline")))
  | some raw =>
    .ok { pid := pid
          args := Cmdline.args raw
          cmdlineFull := Cmdline.full raw
          comm := (files.comm.map commOf).getD []
          exe := (files.exeTarget.map Title.stripDeleted).getD []
          environ := match files.environ with
            | some e => Environ.ofEntries ((Cmdline.split e).getD [])
            | none => Environ.empty }

end ProcRecord

end ProcessTitle
