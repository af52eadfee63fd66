/-!
# Run tables
-/

namespace ProcessTitle

namespace Unicode

def hexDigit? (c : Char) : Option Nat :=
  if '0' ≤ c && c ≤ '9' then some (c.toNat - 48)
  else if 'a' ≤ c && c ≤ 'f' then some (c.toNat - 87)
  else none

def readHex (pieces : List String) : Array Nat :=
  let step (st : Array Nat × Nat × Bool) (c : Char) : Array Nat × Nat × Bool :=
    let (acc, cur, open_) := st
    match hexDigit? c with
    | some d => (acc, cur * 16 + d, true)
    | none => if c == ',' && open_ then (acc.push cur, 0, false) else (acc, cur, open_)
  let (acc, cur, open_) := pieces.foldl (fun st p => p.foldl step st) (#[], 0, false)
  if open_ then acc.push cur else acc

structure RunTable where
  starts : Array Nat
  values : Array Nat

namespace RunTable

/-- The runs given by their values and lengths, alternating, the first run starting at zero. -/
def ofLengths (nums : Array Nat) : RunTable :=
  let (starts, values, _) := (List.range (nums.size / 2)).foldl
    (fun (st : Array Nat × Array Nat × Nat) i =>
      let (ss, vs, start) := st
      (ss.push start, vs.push (nums.getD (2 * i) 0), start + nums.getD (2 * i + 1) 0))
    (#[], #[], 0)
  ⟨starts, values⟩

/-- Entries given as key and value, alternating, keys increasing. -/
def ofPairs (nums : Array Nat) : RunTable :=
  let (starts, values) := (List.range (nums.size / 2)).foldl
    (fun (st : Array Nat × Array Nat) i =>
      (st.1.push (nums.getD (2 * i) 0), st.2.push (nums.getD (2 * i + 1) 0)))
    (#[], #[])
  ⟨starts, values⟩

/-- The index of the last run in `[lo, hi)` that starts at or before `n`, halving the
interval at most `fuel` times. -/
def search (t : RunTable) (n : Nat) : Nat → Nat → Nat → Nat
  | 0, lo, _ => lo
  | fuel + 1, lo, hi =>
    if lo + 1 < hi then
      let mid := lo + (hi - lo) / 2
      if t.starts.getD mid 0 ≤ n then t.search n fuel mid hi else t.search n fuel lo mid
    else lo

def indexOf (t : RunTable) (n : Nat) : Nat :=
  t.search n (Nat.log2 t.starts.size + 2) 0 t.starts.size

def valueAt (t : RunTable) (n : Nat) : Nat := t.values.getD (t.indexOf n) 0

def entry? (t : RunTable) (n : Nat) : Option Nat :=
  let i := t.indexOf n
  if t.starts.getD i (n + 1) == n then t.values[i]? else none

example : (ofLengths #[7, 2, 9, 3]).valueAt 1 = 7 ∧ (ofLengths #[7, 2, 9, 3]).valueAt 4 = 9 := by
  decide

end RunTable

end Unicode

end ProcessTitle
