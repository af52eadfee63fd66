import ProcessTitle.Proc.Started

/-!
# The argument-block setter inside a process

The process's argument vector, whose elements point into the kernel block until the program
replaces or re-slices them, and the setter that captures the first vector it takes for the
process's own by comparing addresses.
-/

namespace ProcessTitle

/-- The address of the `i`-th argument's data, in a block laid out from address 1. -/
def Proc.slot (p : Proc) (i : Nat) : Nat := 1 + (ArgSlot.layout (p.slots.take i)).length

/-- An element of the process's argument vector: a slice of the kernel's argument `arg` in place
in the block, `len` bytes from `off` bytes into it, or a string the program owns. -/
inductive Held where
  | kernel (arg off len : Nat)
  | owned (bytes : Bytes)
deriving DecidableEq, Repr

namespace Held

def bytes (args : List Bytes) : Held → Bytes
  | kernel arg off len => ((args.getD arg []).drop off).take len
  | owned bytes => bytes

/-- The address of an element's data; a string the program owns lies away from the block, at
what address 0 stands for. -/
def addr (p : Proc) : Held → Nat
  | kernel arg off _ => p.slot arg + off
  | owned _ => 0

/-- The slice `[lo, hi)` of an element, or `none` out of range, where the program panics. An
empty slice keeps the element's address. -/
def slice (lo hi : Nat) : Held → Option Held
  | kernel arg off len =>
    if lo ≤ hi ∧ hi ≤ len then some (kernel arg (if lo < hi then off + lo else off) (hi - lo))
    else none
  | owned bytes =>
    if lo ≤ hi ∧ hi ≤ bytes.length then some (owned ((bytes.drop lo).take (hi - lo))) else none

def copy (args : List Bytes) (h : Held) : Held := owned (h.bytes args)

end Held

/-- A slice of the process's argument vector of `n` elements: `len` elements from `start` on.
A slice cannot reach past the vector's end. -/
structure VecSlice (n : Nat) where
  start : Nat
  len : Nat
  fits : start + len ≤ n
deriving DecidableEq, Repr

/-- A vector of strings handed to the setter: a slice of the process's own vector, or a slice of
another array, whose first slot is never the process vector's. -/
inductive ArgVec (n : Nat) where
  | own (slice : VecSlice n)
  | other
deriving DecidableEq, Repr

def ArgVec.whole (n : Nat) : ArgVec n := .own ⟨0, n, Nat.le_of_eq (Nat.zero_add n)⟩

/-- A step of a program that uses the setter, in a process with `n` arguments: hand the setter a
vector, set a title, store a string of the program's own in an element, or store in element `i`
the slice `[lo, hi)` of element `j`. -/
inductive ArgvStep (n : Nat) where
  | init (v : ArgVec n)
  | setTitle (t : Title)
  | store (i : Fin n) (s : Bytes)
  | reslice (i j : Fin n) (lo hi : Nat)

/-- What the program and the setter hold: the process's argument vector, the argument block,
whether the setter's one capture has run, and the area it captured. -/
structure ArgvState where
  held : List Held
  block : Bytes
  done : Bool
  area : Option ArgArea
deriving DecidableEq, Repr

namespace ArgvState

variable (p : Proc)

/-- A freshly started process: every element its argument in place, the block as the kernel laid
it out, nothing captured. -/
def start : ArgvState :=
  { held := p.args.mapIdx fun i a => .kernel i 0 a.length, block := p.initial.block, done := false,
    area := none }

/-- The first `k` elements of the vector as a capture reads them: the address of each one's data
and its bytes. -/
def data (s : ArgvState) (k : Nat) : List (Nat × Bytes) :=
  (s.held.take k).map fun h => (h.addr p, h.bytes p.args)

/-- Whether the setter takes a vector for the process's own: a non-empty slice from the first
slot, whose first element is not empty and starts where the kernel put the first argument,
which is not empty either. -/
def accepts (s : ArgvState) : ArgVec p.args.length → Bool
  | .own slice =>
    slice.len != 0 && slice.start == 0 &&
      match p.args.head?, s.held.head? with
      | some first, some h => !first.isEmpty && h.addr p == p.slot 0 && !(h.bytes p.args).isEmpty
      | _, _ => false
  | .other => false

/-- Hands a vector to the setter. A vector it takes is captured the first time only: the area its
elements' addresses span, and every element replaced by a copy. -/
def init (s : ArgvState) : ArgVec p.args.length → ArgvState
  | v@(.own slice) =>
    if s.accepts p v && !s.done then
      { s with
        done := true
        area := (ArgArea.locate (s.data p slice.len)).map (·.2)
        held := (s.held.take slice.len).map (·.copy p.args) ++ s.held.drop slice.len }
    else s
  | .other => s

/-- Sets a title: written into the captured area, and nothing at all without one. -/
def setTitle (s : ArgvState) (t : Title) : ArgvState :=
  match s.area with
  | none => s
  | some area => { s with block := area.write s.block (t.display area.first) }

/-- Performs one step of the program; a slice out of range leaves the state as it was. -/
def step (s : ArgvState) : ArgvStep p.args.length → ArgvState
  | .init v => s.init p v
  | .setTitle t => s.setTitle t
  | .store i bytes => { s with held := s.held.set i (.owned bytes) }
  | .reslice i j lo hi =>
    match s.held[j.val]?.bind (·.slice lo hi) with
    | some h => { s with held := s.held.set i h }
    | none => s

def run : ArgvState → List (ArgvStep p.args.length) → ArgvState
  | s, [] => s
  | s, e :: rest => run (s.step p e) rest

end ArgvState

/-- A call the library makes on its platform setter: the initialization, which hands the setter
the process's own vector, or a title. -/
inductive SetterStep where
  | init
  | setTitle (t : Title)

namespace SetterStep

/-- The step the argument-block setter takes for a call, in a process with `n` arguments. -/
def argvStep (n : Nat) : SetterStep → ArgvStep n
  | init => .init (.whole n)
  | setTitle t => .setTitle t

/-- A call as the library performs it on its setter, in the process `p`. -/
def perform (p : Proc) (c : SetterStep) (st : Setter × Effects) : Setter × Effects :=
  match c with
  | init =>
    let (setter, calls) := st.1.init p.args st.2.calls
    (setter, { st.2 with calls := calls })
  | setTitle t => (st.1, Titler.apply st.1 t st.2)

def run (p : Proc) : Setter × Effects → List SetterStep → Setter × Effects
  | st, [] => st
  | st, c :: rest => run p (c.perform p st) rest

end SetterStep

end ProcessTitle
