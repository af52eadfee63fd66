import ProcessTitle.Expr.Coerce

/-!
# Methods of durations
-/

namespace ProcessTitle

namespace Expr

inductive DurationMethod where
  | abs
  | hours
  | microseconds
  | milliseconds
  | minutes
  | nanoseconds
  | round
  | seconds
  | string
  | truncate
deriving DecidableEq, Repr

namespace DurationMethod

def all : List DurationMethod :=
  [.abs, .hours, .microseconds, .milliseconds, .minutes, .nanoseconds, .round, .seconds, .string,
   .truncate]

def name : DurationMethod → String
  | .abs => "Abs"
  | .hours => "Hours"
  | .microseconds => "Microseconds"
  | .milliseconds => "Milliseconds"
  | .minutes => "Minutes"
  | .nanoseconds => "Nanoseconds"
  | .round => "Round"
  | .seconds => "Seconds"
  | .string => "String"
  | .truncate => "Truncate"

def ofName? (n : String) : Option DurationMethod := all.find? (·.name == n)

def params : DurationMethod → List Ty
  | .round | .truncate => [.duration]
  | _ => []

def result : DurationMethod → Ty
  | .hours | .minutes | .seconds => .float
  | .microseconds | .milliseconds | .nanoseconds => .int
  | .string => .string
  | .abs | .round | .truncate => .duration

def maxNanos : Int := Int.pow 2 63 - 1

def minNanos : Int := -(Int.pow 2 63)

/-- A length of `ns` nanoseconds in units of `unit` nanoseconds: the whole units and the rest,
each converted exactly, then added. -/
def inUnits (ns : Int) (unit : Nat) : Float :=
  Float.ofInt (ns.tdiv unit) + Float.ofInt (ns.tmod unit) / Float.ofNat unit

/-- The absolute value of a duration; the least duration has none and gives the greatest. -/
def absolute (d : Int) : Int :=
  if d ≥ 0 then d else if d == minNanos then maxNanos else -d

/-- A duration truncated toward zero to a multiple of `m`. -/
def truncateTo (d m : Int) : Int := if m ≤ 0 then d else d - d.tmod m

/-- A duration rounded to the nearest multiple of `m`, halves away from zero, stopping at the
ends of the 64-bit range. -/
def roundTo (d m : Int) : Int :=
  if m ≤ 0 then d
  else
    let r := (d.tmod m).natAbs
    if d < 0 then
      if r + r < m then d + r
      else if d - m + r ≥ minNanos then d - m + r else minNanos
    else if r + r < m then d - r
    else if d + m - r ≤ maxNanos then d + m - r else maxNanos

def unitOf : List Value → Except String Int
  | [.duration m] => .ok m
  | [v] => .error (v.conversionFailure "time.Duration")
  | [] => .error "reflect: Call with too few input arguments"
  | _ => .error "reflect: Call with too many input arguments"

def apply (m : DurationMethod) (d : Int) (args : List Value) : Except String Value :=
  match m with
  | .round => return .duration (roundTo d (← unitOf args))
  | .truncate => return .duration (truncateTo d (← unitOf args))
  | m =>
    if !args.isEmpty then .error "reflect: Call with too many input arguments"
    else match m with
      | .abs => .ok (.duration (absolute d))
      | .hours => .ok (.float (inUnits d 3600000000000))
      | .minutes => .ok (.float (inUnits d 60000000000))
      | .seconds => .ok (.float (inUnits d 1000000000))
      | .milliseconds => .ok (.int (d.tdiv 1000000))
      | .microseconds => .ok (.int (d.tdiv 1000))
      | .nanoseconds => .ok (.int d)
      | _ => .ok (Value.ofString (Value.durationText d))

def callFailure (v : Value) : String :=
  let kind := match v with
    | .nil => "zero"
    | .bool _ => "bool"
    | .int _ => "int"
    | .float _ => "float64"
    | .str _ => "string"
    | .byte _ => "uint8"
    | .duration _ => "int64"
    | .array _ _ => "slice"
    | .map _ _ _ => "map"
  "reflect: call of reflect.Value.Call on " ++ kind ++ " Value"

example : roundTo 5400000000000 3600000000000 = 7200000000000 := by decide

example : roundTo (-5400000000000) 3600000000000 = -7200000000000 := by decide

example : truncateTo (-5400000000000) 3600000000000 = -3600000000000 := by decide

end DurationMethod

end Expr

end ProcessTitle
