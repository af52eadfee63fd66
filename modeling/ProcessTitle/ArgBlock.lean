import ProcessTitle.Title

/-!
The kernel argument block and the area of it a title may overwrite: the leading run of
arguments laid out back to back, never the NUL after it. Writing a title keeps the area's size.
-/

namespace ProcessTitle

/-- A command-line argument as a process holds it: its bytes, and whether its data lies outside
the kernel block (an argument replaced by a separate copy is detached). -/
structure ArgSlot where
  bytes : Bytes
  detached : Bool := false
deriving DecidableEq, Repr, Inhabited

namespace ArgSlot

/-- The kernel block of a list of arguments: every argument that lies in the block, each
followed by a NUL. -/
def layout (args : List ArgSlot) : Bytes :=
  (args.filter fun a => !a.detached).flatMap fun a => a.bytes ++ [Bytes.nul]

/-- The bytes that the arguments after the first add to the area: each argument of the leading
run in the block counts with the NUL before it. -/
def runLength : List ArgSlot → Nat
  | [] => 0
  | a :: rest => if a.detached then 0 else 1 + a.bytes.length + runLength rest

/-- The argument vector after capture: every argument is replaced by a private copy, so none
lies in the block any more and overwriting the block cannot change one. -/
def detachAll (args : List ArgSlot) : List ArgSlot := args.map fun a => { a with detached := true }

/-- The values the arguments of a vector read in a given state of the block: an argument in the
block reads the bytes at its place in the layout, a detached one reads its own copy. -/
def read : Bytes → List ArgSlot → List Bytes
  | _, [] => []
  | block, a :: rest =>
    if a.detached then a.bytes :: read block rest
    else block.take a.bytes.length :: read (block.drop (a.bytes.length + 1)) rest

end ArgSlot

/-- The captured area of an argument block: its size in bytes, and a copy of the first argument
as it was at capture. -/
structure ArgArea where
  size : Nat
  first : Bytes
deriving DecidableEq, Repr, Inhabited

namespace ArgArea

/-- Captures the area of an argument list, and the list as the capture leaves it: every
argument replaced by a private copy. Nothing, and the list untouched, when there is no argument
or the first one is empty. -/
def capture : List ArgSlot → Option ArgArea × List ArgSlot
  | [] => (none, [])
  | a :: rest =>
    if a.bytes.isEmpty then (none, a :: rest)
    else (some { size := a.bytes.length + ArgSlot.runLength rest, first := a.bytes },
      ArgSlot.detachAll (a :: rest))

/-- Where the capture's scan stops. The area found so far ends at address `stop`, where the NUL
after its last argument lies; the next argument, given by the address of its data and its
length, extends the area when its data starts right after that NUL. An argument without data
has address 0, which never follows a NUL. -/
def scan (stop : Nat) : List (Nat × Nat) → Nat
  | [] => stop
  | (data, len) :: rest => if data = stop + 1 then scan (data + len) rest else stop

/-- The capture as a process performs it, on each argument with the address of its data: the
area starts at the first argument's data and runs to where the scan stops. Nothing when there is
no argument or the first one is empty. -/
def locate : List (Nat × Bytes) → Option (Nat × ArgArea)
  | [] => none
  | (base, first) :: rest =>
    if first.isEmpty then none
    else
      let stop := scan (base + first.length) (rest.map fun (data, bytes) => (data, bytes.length))
      some (base, { size := stop - base, first := first })

/-- Copies `s` over the start of `region`, as far as the region reaches, and clears the rest of
the region. -/
def fill : Bytes → Bytes → Bytes
  | [], region => region.map fun _ => Bytes.nul
  | _, [] => []
  | c :: s, _ :: region => c :: fill s region

/-- The block after writing `s` into the area: the area is filled with `s`, the bytes after it
stay. -/
def write (a : ArgArea) (block s : Bytes) : Bytes := fill s (block.take a.size) ++ block.drop a.size

@[simp] theorem length_fill (s region : Bytes) : (fill s region).length = region.length := by
  induction region generalizing s with
  | nil => cases s <;> rfl
  | cons r region ih => cases s <;> simp [fill, ih]

theorem fill_eq (s region : Bytes) :
    fill s region = s.take region.length ++ List.replicate (region.length - s.length) Bytes.nul := by
  induction region generalizing s with
  | nil => cases s <;> simp [fill]
  | cons r region ih =>
    cases s with
    | nil => simp [fill, List.replicate, List.map_const']
    | cons c s => simp [fill, ih]

end ArgArea

namespace Title

/-- The text a title puts in the argument area: a title with a program is shown as it is;
otherwise the original first argument leads, alone when the title is empty. -/
def display (t : Title) (first : Bytes) : Bytes :=
  if t.hasProgram then t.text
  else if t.text.isEmpty then first
  else first ++ [Bytes.space] ++ t.text

end Title

end ProcessTitle
