import ProcessTitle.Expr.Ty
import ProcessTitle.Text.Utf8
import ProcessTitle.Decimal.Shortest

/-!
Values of the expression language and their text.
-/

namespace ProcessTitle

namespace Expr

inductive Value where
  | nil
  | bool (b : Bool)
  | int (n : Int)
  | float (x : Float)
  | str (s : Bytes)
  | byte (b : UInt8)
  | duration (ns : Int)
  | array (decl : Ty) (xs : List Value)
  | map (key val : Ty) (entries : List (Value × Value))
deriving Repr, Inhabited

namespace Value

/-- Wraps an integer into the 64-bit signed range, as machine arithmetic does. -/
def wrap (n : Int) : Int := Int.bmod n (Nat.pow 2 64)

def ofString (s : String) : Value := .str (Bytes.ofString s)

def strings (xs : List Bytes) : Value := .array .string (xs.map .str)

def list (xs : List Value) : Value := .array .any xs

def ty : Value → Ty
  | .nil => .nil
  | .bool _ => .bool
  | .int _ => .int
  | .float _ => .float
  | .str _ => .string
  | .byte _ => .byte
  | .duration _ => .duration
  | .array d _ => .array d d
  | .map k v _ => .map k v

def typeName : Value → String
  | .nil => "<nil>"
  | v => v.ty.name

def isNil : Value → Bool
  | .nil => true
  | _ => false

/-- The zero value of a type: what a map yields for a missing key. -/
def zero : Ty → Value
  | .bool => .bool false
  | .int => .int 0
  | .float => .float 0
  | .string => .str []
  | .byte => .byte 0
  | .duration => .duration 0
  | _ => .nil

/-- The text of a number of nanoseconds as a duration: hours, minutes and seconds with a
fraction (`1h30m0s`, `1.5s`), or a smaller unit below one second (`1.2ms`, `3µs`, `5ns`). -/
def durationText (ns : Int) : String :=
  let u := ns.natAbs
  let sign := if ns < 0 then "-" else ""
  -- the fraction of v / 10^prec without trailing zeros, and the integer part
  let frac (v prec : Nat) : String × Nat :=
    let fracDigits := ((toString (v % Nat.pow 10 prec + Nat.pow 10 prec)).toList.drop 1)
    let trimmed := String.ofList (fracDigits.reverse.dropWhile (· == '0')).reverse
    ((if trimmed.isEmpty then "" else "." ++ trimmed), v / Nat.pow 10 prec)
  if u == 0 then "0s"
  else if u < 1000 then sign ++ toString u ++ "ns"
  else if u < 1000000 then
    let (f, w) := frac u 3
    sign ++ toString w ++ f ++ "µs"
  else if u < 1000000000 then
    let (f, w) := frac u 6
    sign ++ toString w ++ f ++ "ms"
  else
    let (f, secs) := frac u 9
    let s := toString (secs % 60) ++ f ++ "s"
    let mins := secs / 60
    if mins == 0 then sign ++ s
    else
      let m := toString (mins % 60) ++ "m" ++ s
      let hours := mins / 60
      if hours == 0 then sign ++ m else sign ++ toString hours ++ "h" ++ m

/-- Key order of a map: numbers by value (NaN first), strings by bytes, then by kind. -/
def keyLt : Value → Value → Bool
  | .int a, .int b => a < b
  | .str a, .str b => Bytes.lexLt a b
  | .float a, .float b => a < b || (a.isNaN && !b.isNaN)
  | .bool a, .bool b => !a && b
  | .byte a, .byte b => a < b
  | .duration a, .duration b => a < b
  | a, b => a.typeName < b.typeName

/-- Whether two map keys are the same key; NaN is no key's equal, its own included. -/
def sameKey : Value → Value → Bool
  | .float a, .float b => a == b
  | a, b => !keyLt a b && !keyLt b a

def insertEntry (k v : Value) : List (Value × Value) → List (Value × Value)
  | [] => [(k, v)]
  | (k', v') :: rest =>
    if sameKey k k' then (k, v) :: rest
    else if keyLt k k' then (k, v) :: (k', v') :: rest
    else (k', v') :: insertEntry k v rest

/-- Of entries ordered by key, the last of each run with the same key, added to `acc` (last
first) and put in order. -/
def lastOfRuns (acc : List (Value × Value)) : List (Value × Value) → List (Value × Value)
  | [] => acc.reverse
  | [e] => (e :: acc).reverse
  | e :: f :: rest =>
    if sameKey e.1 f.1 then lastOfRuns acc (f :: rest) else lastOfRuns (e :: acc) (f :: rest)

/-- The entries of a map, ordered by key, from entries in any order; a later entry wins. The
entries are sorted stably, so of those with one key the latest comes last in its run. -/
def entriesOf (kvs : List (Value × Value)) : List (Value × Value) :=
  lastOfRuns [] (kvs.mergeSort fun a b => !keyLt b.1 a.1)

/-- Of entries ordered by key, the runs with the same key, added to `acc` (last first, each
run's values last first) and put in order. A run keeps the last of its keys. -/
def groupRuns (acc : List (Value × List Value)) : List (Value × Value) → List (Value × List Value)
  | [] => (acc.map fun (k, xs) => (k, xs.reverse)).reverse
  | (k, x) :: rest =>
    match acc with
    | (k', xs) :: earlier =>
      if sameKey k k' then groupRuns ((k, x :: xs) :: earlier) rest
      else groupRuns ((k, [x]) :: acc) rest
    | [] => groupRuns [(k, [x])] rest

/-- Values grouped by their keys, ordered by key; each group keeps its values in the order
given. -/
def groupEntries (kvs : List (Value × Value)) : List (Value × List Value) :=
  groupRuns [] (kvs.mergeSort fun a b => !keyLt b.1 a.1)

def print : Value → Bytes
  | .nil => Bytes.ofString "<nil>"
  | .bool b => Bytes.ofString (if b then "true" else "false")
  | .int n => Bytes.ofString (toString n)
  | .float x => Bytes.ofString (Decimal.render Decimal.FloatStyle.general x)
  | .str s => s
  | .byte b => Bytes.ofString (toString b.toNat)
  | .duration ns => Bytes.ofString (durationText ns)
  | .array _ xs => [91] ++ Bytes.join [32] (xs.attach.map fun ⟨x, _⟩ => print x) ++ [93]
  | .map _ _ kvs =>
    Bytes.ofString "map[" ++
      Bytes.join [32] (kvs.attach.map fun ⟨(k, v), _⟩ => print k ++ [58] ++ print v) ++ [93]
termination_by v => v
decreasing_by
  all_goals simp_wf
  all_goals first
    | (have hm := List.sizeOf_lt_of_mem ‹_ ∈ _›; omega)
    | (have h := List.sizeOf_lt_of_mem ‹_ ∈ _›; simp at h; omega)

end Value

end Expr

end ProcessTitle
