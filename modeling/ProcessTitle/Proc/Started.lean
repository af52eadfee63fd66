import ProcessTitle.Titler
import ProcessTitle.Proc.Record

/-!
# Processes

A process as far as its title goes, and what the process file system shows of it.
-/

namespace ProcessTitle

/-- A process: its argument vector (`argv[0]` first), its executable, environment, id, and the
symbolic links it can read besides its own executable link. -/
structure Proc where
  args : List Bytes
  exe : Bytes
  environ : List (Bytes × Bytes)
  pid : Int
  links : List (Bytes × Bytes)

namespace Proc

def slots (p : Proc) : List ArgSlot := p.args.map fun a => { bytes := a }

def startupArea (p : Proc) : Option ArgArea := (ArgArea.capture p.slots).1

/-- The state the kernel starts the process in: the laid-out argument block and the thread
name taken from the executable. -/
def initial (p : Proc) : Effects :=
  { block := ArgSlot.layout p.slots, comm := ThreadName.stored (Path.base p.exe) }

def readLink (p : Proc) (path : Bytes) : Option Bytes :=
  if path == Executable.defaultLink then some p.exe else p.links.lookup path

def entries (p : Proc) : List Bytes := p.environ.map fun (k, v) => k ++ [61] ++ v

def host (p : Proc) : Host :=
  { readLink := p.readLink, environ := p.entries, pid := p.pid, evaluate := Expr.Program.machine }

def vars (p : Proc) : List (Bytes × Bytes) := p.environ

/-- The process's directory in the process file system, given its current state: the argument
block, the thread name with its newline, the environment entries and the executable. -/
def files (p : Proc) (fx : Effects) : ProcFiles :=
  { cmdline := some fx.block
    comm := some (fx.comm ++ [10])
    environ := some (p.entries.flatMap (· ++ [Bytes.nul]))
    exeTarget := some p.exe }

def inspect (p : Proc) (fx : Effects) : ProcRecord :=
  match ProcRecord.read (Bytes.ofString "/proc") p.pid (p.files fx) with
  | .ok r => r
  | .error _ => default

theorem read_files_ok (p : Proc) (fx : Effects) :
    (ProcRecord.read (Bytes.ofString "/proc") p.pid (p.files fx)).isOk = true := by
  simp [ProcRecord.read, files, Except.isOk, Except.toBool]

end Proc

end ProcessTitle
