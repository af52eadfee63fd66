/-!
# Unstable in-place sorting

Pattern-defeating quicksort. Comparisons may fail, so the order of comparisons and swaps is part
of the result, and every step follows it exactly.
-/

namespace ProcessTitle

namespace Sorting

/-- A sort in progress: the array being reordered, and the failure of a comparison. -/
abbrev SortM (α : Type) := StateT (Array α) (Except String)

/-- What the pivot choice saw of the order of the stretch. -/
inductive Hint where
  | unknown
  | increasing
  | decreasing
deriving BEq, Repr

section

variable {α : Type} [Inhabited α] (less : α → α → Except String Bool)

def lessAt (i j : Nat) : SortM α Bool := do
  let xs ← get
  StateT.lift (less (xs.getD i default) (xs.getD j default))

def swapAt (i j : Nat) : SortM α Unit :=
  modify fun xs => xs.swapIfInBounds i j

def sinkLeft (a : Nat) : Nat → Nat → SortM α Unit
  | 0, _ => pure ()
  | fuel + 1, j => do
    if j > a then
      if ← lessAt less j (j - 1) then
        swapAt j (j - 1)
        sinkLeft a fuel (j - 1)

def insertionSort (a b : Nat) : SortM α Unit := do
  for i in [a + 1:b] do
    sinkLeft less a (i - a) i

/-- Restores the heap order below `root` in the heap of `hi` elements stored from `first` on. -/
def siftDown (hi first : Nat) : Nat → Nat → SortM α Unit
  | 0, _ => pure ()
  | fuel + 1, root => do
    let child := 2 * root + 1
    if child ≥ hi then return
    let child ← if child + 1 < hi then do
        if ← lessAt less (first + child) (first + child + 1) then pure (child + 1) else pure child
      else pure child
    if !(← lessAt less (first + root) (first + child)) then return
    swapAt (first + root) (first + child)
    siftDown hi first fuel child

/-- Sorts `[a, b)` as a heap: builds it with the greatest element on top, then takes the top
off into the end, one by one. -/
def heapSort (a b : Nat) : SortM α Unit := do
  let hi := b - a
  for k in [0:(hi + 1) / 2] do
    siftDown less hi a (hi + 1) ((hi - 1) / 2 - k)
  for k in [0:hi] do
    let i := hi - 1 - k
    swapAt a (a + i)
    siftDown less i a (hi + 1) 0

def climbLess (p : Nat) : Nat → Nat → Nat → SortM α Nat
  | 0, i, _ => pure i
  | fuel + 1, i, j => do
    if i ≤ j then
      if ← lessAt less i p then climbLess p fuel (i + 1) j else pure i
    else pure i

def descendNotLess (p : Nat) : Nat → Nat → Nat → SortM α Nat
  | 0, _, j => pure j
  | fuel + 1, i, j => do
    if i ≤ j then
      if !(← lessAt less j p) then descendNotLess p fuel i (j - 1) else pure j
    else pure j

/-- The rounds of a partition after the first: swaps pairs on the wrong sides until the two
scans cross, and gives where `j` ends. -/
def partitionRounds (a : Nat) : Nat → Nat → Nat → SortM α Nat
  | 0, _, j => pure j
  | fuel + 1, i, j => do
    let i ← climbLess less a (j + 1) i j
    let j ← descendNotLess less a (j + 1) i j
    if i > j then return j
    swapAt i j
    partitionRounds a fuel (i + 1) (j - 1)

/-- Partitions `[a, b)` around the pivot at `pivot`: the elements less than it come first,
then the pivot, then the others. Gives the pivot's new place, and whether nothing had to
move. -/
def partition (a b pivot : Nat) : SortM α (Nat × Bool) := do
  swapAt a pivot
  let i ← climbLess less a (b - a) (a + 1) (b - 1)
  let j ← descendNotLess less a (b - a) i (b - 1)
  if i > j then
    swapAt j a
    return (j, true)
  swapAt i j
  let j ← partitionRounds less a (b - a) (i + 1) (j - 1)
  swapAt j a
  return (j, false)

def climbNotGreater (p : Nat) : Nat → Nat → Nat → SortM α Nat
  | 0, i, _ => pure i
  | fuel + 1, i, j => do
    if i ≤ j then
      if !(← lessAt less p i) then climbNotGreater p fuel (i + 1) j else pure i
    else pure i

def descendGreater (p : Nat) : Nat → Nat → Nat → SortM α Nat
  | 0, _, j => pure j
  | fuel + 1, i, j => do
    if i ≤ j then
      if ← lessAt less p j then descendGreater p fuel i (j - 1) else pure j
    else pure j

def equalRounds (a : Nat) : Nat → Nat → Nat → SortM α Nat
  | 0, i, _ => pure i
  | fuel + 1, i, j => do
    let i ← climbNotGreater less a (j + 1) i j
    let j ← descendGreater less a (j + 1) i j
    if i > j then return i
    swapAt i j
    equalRounds a fuel (i + 1) (j - 1)

/-- Partitions `[a, b)`, none of whose elements is less than the pivot at `pivot`, into the
elements equal to it and then the greater ones; gives where the greater ones start. -/
def partitionEqual (a b pivot : Nat) : SortM α Nat := do
  swapAt a pivot
  equalRounds less a (b - a + 1) (a + 1) (b - 1)

def shiftLeftward : Nat → Nat → SortM α Unit
  | 0, _ => pure ()
  | fuel + 1, j => do
    if j ≥ 1 then
      if ← lessAt less j (j - 1) then
        swapAt j (j - 1)
        shiftLeftward fuel (j - 1)

def shiftRightward (b : Nat) : Nat → Nat → SortM α Unit
  | 0, _ => pure ()
  | fuel + 1, j => do
    if j < b then
      if ← lessAt less j (j - 1) then
        swapAt j (j - 1)
        shiftRightward b fuel (j + 1)

def climbSorted (b : Nat) : Nat → Nat → SortM α Nat
  | 0, i => pure i
  | fuel + 1, i => do
    if i < b then
      if !(← lessAt less i (i - 1)) then climbSorted b fuel (i + 1) else pure i
    else pure i

/-- Tries to finish sorting `[a, b)` by moving at most five elements out of order into place;
gives whether the stretch is sorted. Short stretches are only checked. -/
def partialInsertionSort (a b : Nat) : Nat → Nat → SortM α Bool
  | 0, _ => pure false
  | steps + 1, i => do
    let i ← climbSorted less b (b - a) i
    if i == b then return true
    if b - a < 50 then return false
    swapAt i (i - 1)
    if i - a ≥ 2 then shiftLeftward less i (i - 1)
    if b - i ≥ 2 then shiftRightward less b (b - i) (i + 1)
    partialInsertionSort a b steps i

def bitLength (n : Nat) : Nat := if n == 0 then 0 else Nat.log2 n + 1

def xorshift (r : UInt64) : UInt64 :=
  let r := r ^^^ (r <<< 13)
  let r := r ^^^ (r >>> 7)
  r ^^^ (r <<< 17)

/-- Swaps three elements near the middle of `[a, b)` with elements at places drawn from a
generator seeded with the length, to break patterns that defeat the pivot choice. -/
def breakPatterns (a b : Nat) : SortM α Unit := do
  let length := b - a
  if length ≥ 8 then
    let modulus := Nat.pow 2 (bitLength length)
    let idx := a + (length / 4) * 2 - 1
    let mut random : UInt64 := length.toUInt64
    for i in [0:3] do
      random := xorshift random
      let other := random.toNat % modulus
      let other := if other ≥ length then other - length else other
      swapAt (idx - 1 + i) (a + other)

def order2 (x y : Nat) (swaps : Nat) : SortM α (Nat × Nat × Nat) := do
  if ← lessAt less y x then return (y, x, swaps + 1) else return (x, y, swaps)

def median (x y z swaps : Nat) : SortM α (Nat × Nat) := do
  let (x, y, swaps) ← order2 less x y swaps
  let (y, _, swaps) ← order2 less y z swaps
  let (_, y, swaps) ← order2 less x y swaps
  return (y, swaps)

/-- The place of a pivot for `[a, b)` and what the choice saw of the order: increasing when
no comparison was out of order, decreasing when all twelve of a long stretch were. -/
def choosePivot (a b : Nat) : SortM α (Nat × Hint) := do
  let l := b - a
  let i := a + l / 4 * 1
  let j := a + l / 4 * 2
  let k := a + l / 4 * 3
  let mut swaps := 0
  let mut pivot := j
  if l ≥ 8 then
    let mut i := i
    let mut j := j
    let mut k := k
    if l ≥ 50 then
      (i, swaps) ← median less (i - 1) i (i + 1) swaps
      (j, swaps) ← median less (j - 1) j (j + 1) swaps
      (k, swaps) ← median less (k - 1) k (k + 1) swaps
    (pivot, swaps) ← median less i j k swaps
  if swaps == 0 then return (pivot, .increasing)
  else if swaps == 12 then return (pivot, .decreasing)
  else return (pivot, .unknown)

def reverseRange (a b : Nat) : SortM α Unit := do
  for k in [0:(b - a) / 2] do
    swapAt (a + k) (b - 1 - k)

/-- Sorts `[a, b)`: short stretches by insertion, others by partitioning around a pivot and
sorting the shorter side first, falling back to heap sort once `limit` bad partitions have
been made. -/
def pdqsort : Nat → Nat → Nat → Nat → Bool → Bool → SortM α Unit
  | 0, _, _, _, _, _ => pure ()
  | fuel + 1, a, b, limit, wasBalanced, wasPartitioned => do
    let length := b - a
    if length ≤ 12 then
      insertionSort less a b
      return
    if limit == 0 then
      heapSort less a b
      return
    let limit ← if !wasBalanced then do
        breakPatterns a b
        pure (limit - 1)
      else pure limit
    let (pivot, hint) ← choosePivot less a b
    let (pivot, hint) ← if hint == .decreasing then do
        reverseRange a b
        pure ((b - 1) - (pivot - a), Hint.increasing)
      else pure (pivot, hint)
    if wasBalanced && wasPartitioned && hint == .increasing then
      if ← partialInsertionSort less a b 5 (a + 1) then return
    if a > 0 then
      if !(← lessAt less (a - 1) pivot) then
        let mid ← partitionEqual less a b pivot
        pdqsort fuel mid b limit wasBalanced wasPartitioned
        return
    let (mid, alreadyPartitioned) ← partition less a b pivot
    let leftLen := mid - a
    let rightLen := b - mid
    let threshold := length / 8
    if leftLen < rightLen then
      pdqsort fuel a mid limit true true
      pdqsort fuel (mid + 1) b limit (leftLen ≥ threshold) alreadyPartitioned
    else
      pdqsort fuel (mid + 1) b limit true true
      pdqsort fuel a mid limit (rightLen ≥ threshold) alreadyPartitioned

end

/-- Sorts an array by `less`, unstably, or gives the first failure of a comparison. -/
def sort {α : Type} [Inhabited α] (less : α → α → Except String Bool) (xs : Array α) :
    Except String (Array α) :=
  let n := xs.size
  if n ≤ 1 then .ok xs
  else (pdqsort less (n + 1) 0 n (bitLength n) true true |>.run xs).map (·.2)

end Sorting

end ProcessTitle
