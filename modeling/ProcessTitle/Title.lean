import ProcessTitle.Text.Bytes

/-!
Process titles, built from a command line and the executable that a symbolic link such as
`/proc/self/exe` resolves to.
-/

namespace ProcessTitle

namespace Path

def slash : UInt8 := 47

/-- The last element of a path: trailing slashes do not count, a path of slashes only has base
`/`, and the empty path has base `.`. -/
def base (p : Bytes) : Bytes :=
  if p.isEmpty then [46]
  else
    let q := Bytes.trimRight slash p
    if q.isEmpty then [slash]
    else (q.reverse.takeWhile (· != slash)).reverse

example : base (Bytes.ofString "/usr/bin/") = Bytes.ofString "bin" := by decide +kernel
example : base (Bytes.ofString "////") = Bytes.ofString "/" := by decide +kernel
example : base (Bytes.ofString "..") = Bytes.ofString ".." := by decide +kernel

end Path

/-- A process title: the full text, and the executable that replaced the first argument
(empty when it could not be resolved). -/
structure Title where
  text : Bytes
  program : Bytes
deriving DecidableEq, Repr, Inhabited

namespace Title

def deletedMark : Bytes := Bytes.ofString " (deleted)"

def stripDeleted (target : Bytes) : Bytes := Bytes.dropSuffix deletedMark target

/-- The title of a command line: the executable (unless empty) and the arguments after the
first, joined by single spaces. The first argument never appears. -/
def build (args : List Bytes) (exe : Bytes) : Title :=
  let exe := stripDeleted exe
  let parts := (if exe.isEmpty then [] else [exe]) ++ args.drop 1
  { text := Bytes.join [Bytes.space] parts, program := exe }

def hasProgram (t : Title) : Bool := !t.program.isEmpty

def shortName (t : Title) : Bytes := if t.program.isEmpty then [] else Path.base t.program

def render (t : Title) : Bytes := t.text

def empty : Title := ⟨[], []⟩

end Title

namespace Executable

def defaultLink : Bytes := Bytes.ofString "/proc/self/exe"

/-- The executable behind `link`, the deleted mark removed. An empty link, an unreadable link
and a target that is empty once the mark is removed all give nothing. -/
def resolve (readLink : Bytes → Option Bytes) (link : Bytes) : Option Bytes :=
  if link.isEmpty then none
  else match readLink link with
    | none => none
    | some target =>
      let t := Title.stripDeleted target
      if t.isEmpty then none else some t

def linkTable (links : List (Bytes × Bytes)) (path : Bytes) : Option Bytes := links.lookup path

end Executable

end ProcessTitle
