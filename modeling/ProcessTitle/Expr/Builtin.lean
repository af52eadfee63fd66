import ProcessTitle.Expr.Access
import ProcessTitle.Expr.Json
import ProcessTitle.Text.Edit
import ProcessTitle.Text.CaseMapping
import ProcessTitle.Text.Utf8
import ProcessTitle.Text.Base64
import ProcessTitle.Text.Duration
import ProcessTitle.Decimal.Read
import ProcessTitle.Sorting

/-!
# Built-in functions

The functions that take plain arguments; each gives its result and the memory it counts for.
-/

namespace ProcessTitle

namespace Expr

namespace Builtin

open Value

def plain (v : Value) : Except String (Value × Nat) := .ok (v, 0)

def arg (args : List Value) (i : Nat) : Value := args.getD i .nil

/-! ### Numbers -/

def abs (v : Value) : Except String Value :=
  match v with
  | .int n => .ok (.int (wrap (if n < 0 then -n else n)))
  | .float x => .ok (.float (if x < 0 then -x else x))
  | .byte b => .ok (.byte b)
  | _ => .error ("invalid argument for abs (type " ++ v.typeName ++ ")")

/-- `ceil`, `floor` and `round`: a float, rounded by `f`; an integer becomes a float. -/
def rounding (name : String) (f : Float → Float) (v : Value) : Except String Value :=
  match v with
  | .float x => .ok (.float (f x))
  | .int n => .ok (.float (Float.ofInt n))
  | .byte b => .ok (.float (Float.ofNat b.toNat))
  | _ => .error ("invalid argument for " ++ name ++ " (type " ++ v.typeName ++ ")")

def roundHalfAway (x : Float) : Float := Float.round x

def atoi (s : Bytes) : Option Int :=
  let (neg, ds) : Bool × Bytes :=
    match s with
    | 45 :: r => (true, r)
    | 43 :: r => (false, r)
    | _ => (false, s)
  if ds.isEmpty || !ds.all (fun b => 48 ≤ b && b ≤ 57) then none
  else
    let n : Nat := ds.foldl (fun acc b => acc * 10 + (b.toNat - 48)) 0
    if neg then (if n ≤ Nat.pow 2 63 then some (-(n : Int)) else none)
    else if n < Nat.pow 2 63 then some n else none

def toIntFn (v : Value) : Except String Value :=
  match v with
  | .int n => .ok (.int n)
  | .byte b => .ok (.int b.toNat)
  | .float x => .ok (.int (truncFloat x))
  | .duration n => .ok (.int n)
  | .str s =>
    match atoi s with
    | some n => .ok (.int n)
    | none => .error ("invalid operation: int(" ++ Utf8.toText s ++ ")")
  | .nil => .error "reflect: call of reflect.Value.Type on zero Value"
  | _ => .error ("invalid operation: int(" ++ v.typeName ++ ")")

def toFloatFn (v : Value) : Except String Value :=
  match v with
  | .float x => .ok (.float x)
  | .int n => .ok (.float (Float.ofInt n))
  | .byte b => .ok (.float (Float.ofNat b.toNat))
  | .duration n => .ok (.float (Float.ofInt n))
  | .str s =>
    match Decimal.readFloat (Utf8.toText s) with
    | .ok x => .ok (.float x)
    | .error _ => .error ("invalid operation: float(" ++ Utf8.toText s ++ ")")
  | .nil => .error "reflect: call of reflect.Value.Type on zero Value"
  | _ => .error ("invalid operation: float(" ++ v.typeName ++ ")")

def typeOf : Value → String
  | .nil => "nil"
  | .bool _ => "bool"
  | .int _ => "int"
  | .float _ => "float"
  | .str _ => "string"
  | .byte _ => "uint"
  | .duration _ => "time.Duration"
  | .array _ _ => "array"
  | .map _ _ _ => "map"

def isNumber : Value → Bool
  | .int _ | .float _ | .byte _ => true
  | _ => false

/-- The greatest (`better = lt`) or least (`better = gt`) number among the arguments, looking
into lists; a single argument that is not a number is its own result. -/
def extreme (name : String) (better : Value → Value → Except String Bool) :
    Nat → List Value → Except String Value
  | 0, _ => .error "recursion depth exceeded"
  | fuel + 1, args => do
    let one := args.length == 1
    let mut best : Value := .nil
    for a in args do
      match a with
      | .array _ xs =>
        for x in xs do
          let e ← extreme name better fuel [x]
          if isNumber e then
            if best.isNil then best := e
            else if ← better best e then best := e
          else .error ("invalid argument for " ++ name ++ " (type " ++ e.typeName ++ ")")
      | _ =>
        if isNumber a then
          if best.isNil then best := a
          else if ← better best a then best := a
        else if one then return a
        else .error ("invalid argument for " ++ name ++ " (type " ++ a.typeName ++ ")")
    return best

def numbers (name : String) : Nat → List Value → Except String (List Float)
  | 0, _ => .error "recursion depth exceeded"
  | fuel + 1, args => do
    let mut out : List Float := []
    for a in args do
      match a with
      | .array _ xs =>
        for x in xs do
          out := out ++ (← numbers name fuel [x])
      | _ =>
        match a.asFloat? with
        | some x => out := out ++ [x]
        | none => .error ("invalid argument for " ++ name ++ " (type " ++ a.typeName ++ ")")
    return out

def depthLimit : Nat := 10000

/-- The order of floats that `median` sorts by: NaN before every number. -/
def floatBefore (x y : Float) : Bool := (x.isNaN && !y.isNaN) || x < y

def insertFloat (x : Float) : List Float → List Float
  | [] => [x]
  | y :: ys => if floatBefore x y then x :: y :: ys else y :: insertFloat x ys

def median (args : List Value) : Except String Value := do
  let xs ← numbers "median" depthLimit args
  let sorted := xs.foldl (fun acc x => insertFloat x acc) []
  let n := sorted.length
  if n == 0 then return .float 0
  else if n % 2 == 1 then return .float (sorted.getD (n / 2) 0)
  else return .float ((sorted.getD (n / 2 - 1) 0 + sorted.getD (n / 2) 0) / 2)

def mean (args : List Value) : Except String Value := do
  let xs ← numbers "mean" depthLimit args
  if xs.isEmpty then return .float 0
  else return .float (xs.foldl (· + ·) 0 / Float.ofNat xs.length)

def negativeShift (y : Int) : String :=
  "invalid operation: negative shift count " ++ toString y ++ " (type int)"

def shiftLeft (x y : Int) : Except String Int :=
  if y < 0 then .error (negativeShift y)
  else if y ≥ 64 then .ok 0
  else .ok (wrap (x * Int.pow 2 y.toNat))

def shiftRight (x y : Int) : Except String Int :=
  if y < 0 then .error (negativeShift y)
  else if y ≥ 64 then .ok (if x < 0 then -1 else 0)
  else .ok (Int.fdiv x (Int.pow 2 y.toNat))

def shiftRightUnsigned (x y : Int) : Except String Int :=
  if y < 0 then .error (negativeShift y)
  else if y ≥ 64 then .ok 0
  else
    let u : Nat := (x % Int.pow 2 64).toNat
    .ok (wrap (u / Int.pow 2 y.toNat))

def bitsOf (x : Int) : Nat := (x % Int.pow 2 64).toNat

def bitwise (f : Nat → Nat → Nat) (x y : Int) : Int := wrap (f (bitsOf x) (bitsOf y))

/-! ### Strings -/

def join (xs : Value) (sep : Bytes) : Except String Value := do
  match xs with
  | .array _ items =>
    let parts ← items.mapM asStr
    return .str (Bytes.join sep parts)
  | v => .error (conversionFailure v "[]string")

def repeatFn (s : Bytes) (n : Int) : Except String (Value × Nat) :=
  if n < 0 then
    .error ("invalid argument for repeat (expected positive integer, got " ++ toString n ++ ")")
  else if n > 100000000 then .error "memory budget exceeded"
  else if s.length * n.toNat ≥ 1000000 then .ok (.nil, s.length * n.toNat)
  else .ok (.str (Bytes.repeatN s n.toNat), s.length * n.toNat)

/-! ### Collections -/

def len (v : Value) : Except String Value :=
  match v with
  | .array _ xs => .ok (.int xs.length)
  | .map _ _ kvs => .ok (.int kvs.length)
  | .str s => .ok (.int (Utf8.count s))
  | _ => .error ("invalid argument for len (type " ++ v.typeName ++ ")")

def kindOf (v : Value) : String := v.kindName

def listArg (what : String) (v : Value) : Except String (List Value) :=
  match v with
  | .array _ xs => .ok xs
  | _ => .error ("cannot " ++ what ++ " " ++ kindOf v)

def flatten : Nat → List Value → List Value
  | 0, xs => xs
  | fuel + 1, xs => xs.flatMap fun x =>
    match x with
    | .array _ ys => flatten fuel ys
    | _ => [x]

def uniq (xs : List Value) : List Value :=
  (xs.foldl (fun acc x => if acc.any (equal x) then acc else x :: acc) []).reverse

def before (desc : Bool) (a b : Value) : Except String Bool :=
  if desc then Value.lt "<" b a else Value.lt "<" a b

def sortValues (desc : Bool) (xs : List Value) : Except String (List Value) :=
  (Sorting.sort (before desc) xs.toArray).map Array.toList

def orderOf (v : Option Value) : Except String Bool :=
  match v with
  | none => .ok false
  | some (.str s) =>
    if s == Bytes.ofString "asc" then .ok false
    else if s == Bytes.ofString "desc" then .ok true
    else .error ("invalid order " ++ Utf8.toText s ++ ", expected asc or desc")
  | some o => .error ("sort order argument must be a string (got " ++ o.typeName ++ ")")

def take (v n : Value) : Except String Value :=
  match v with
  | .array d xs =>
    match n with
    | .int k =>
      if k > xs.length then .ok v
      else if k < 0 then .error "reflect.Value.Slice: slice index out of bounds"
      else .ok (.array d (xs.take k.toNat))
    | _ => .error ("cannot take " ++ kindOf n ++ " elements")
  | _ => .error ("cannot take from " ++ kindOf v)

def fromPairs (v : Value) : Except String Value := do
  match v with
  | .array _ xs =>
    let pairs ← xs.mapM fun p =>
      match p with
      | .array _ [k, x] => .ok (k, x)
      | .array _ _ => .error ("invalid pair length " ++ Utf8.toText p.print)
      | _ => .error ("invalid pair " ++ Utf8.toText p.print)
    return .map .any .any (entriesOf pairs)
  | _ => .error ("cannot transform " ++ Utf8.toText v.print ++ " from pairs")

/-! ### Dispatch -/

/-- Runs a built-in function on its arguments: the result and the memory it counts for. -/
def apply (name : String) (args : List Value) : Except String (Value × Nat) := do
  let a0 := arg args 0
  let a1 := arg args 1
  let a2 := arg args 2
  match name with
  | "len" => plain (← len a0)
  | "type" => plain (Value.ofString (typeOf a0))
  | "abs" => plain (← abs a0)
  | "ceil" => plain (← rounding "ceil" Float.ceil a0)
  | "floor" => plain (← rounding "floor" Float.floor a0)
  | "round" => plain (← rounding "round" roundHalfAway a0)
  | "int" => plain (← toIntFn a0)
  | "float" => plain (← toFloatFn a0)
  | "string" => plain (.str a0.print)
  | "trim" =>
    if args.length == 1 then plain (.str (Blank.trim (← asStr a0)))
    else plain (.str (Bytes.trimSet (← asStr a0) (← asStr a1)))
  | "trimPrefix" =>
    let p ← if args.length == 1 then pure [32] else asStr a1
    plain (.str (Bytes.dropPrefix p (← asStr a0)))
  | "trimSuffix" =>
    let p ← if args.length == 1 then pure [32] else asStr a1
    plain (.str (Bytes.dropSuffix p (← asStr a0)))
  | "upper" => plain (.str (Case.toUpper (← asStr a0)))
  | "lower" => plain (.str (Case.toLower (← asStr a0)))
  | "split" =>
    let n ← if args.length == 3 then toInt a2 else pure (-1)
    plain (Value.strings (Bytes.splitWith (← asStr a0) (← asStr a1) 0 n))
  | "splitAfter" =>
    let s ← asStr a0
    let sep ← asStr a1
    let n ← if args.length == 3 then toInt a2 else pure (-1)
    plain (Value.strings (Bytes.splitWith s sep sep.length n))
  | "replace" =>
    let n ← if args.length == 4 then toInt (arg args 3) else pure (-1)
    plain (.str (Bytes.replace (← asStr a0) (← asStr a1) (← asStr a2) n))
  | "repeat" => repeatFn (← asStr a0) (← toInt a1)
  | "join" =>
    let sep ← if args.length == 2 then asStr a1 else pure []
    plain (← join a0 sep)
  | "indexOf" =>
    let s ← asStr a0
    plain (.int (match Bytes.indexOf? s (← asStr a1) with
      | some i => i
      | none => -1))
  | "lastIndexOf" =>
    let s ← asStr a0
    plain (.int (match Bytes.lastIndexOf? s (← asStr a1) with
      | some i => i
      | none => -1))
  | "hasPrefix" =>
    let s ← asStr a0
    plain (.bool ((← asStr a1).isPrefixOf s))
  | "hasSuffix" =>
    let s ← asStr a0
    plain (.bool ((← asStr a1).isSuffixOf s))
  | "max" => plain (← extreme "max" (fun a b => Value.lt "<" a b) depthLimit args)
  | "min" => plain (← extreme "min" (fun a b => Value.lt ">" b a) depthLimit args)
  | "mean" => plain (← mean args)
  | "median" => plain (← median args)
  | "toJSON" => plain (.str (← Json.write a0))
  | "fromJSON" => plain (← Json.parse (← asStr a0))
  | "toBase64" => plain (.str (Base64.encode (← asStr a0)))
  | "fromBase64" =>
    match Base64.decode (← asStr a0) with
    | .ok b => plain (.str b)
    | .error off => .error (Base64.failure off)
  | "duration" => plain (.duration (← Duration.parse (← asStr a0)))
  | "first" => plain (Value.first a0)
  | "last" => plain (Value.last a0)
  | "get" => plain (← Value.get a0 a1)
  | "take" => plain (← take a0 a1)
  | "keys" =>
    match a0 with
    | .map _ _ kvs => plain (.array .any (kvs.map (·.1)))
    | _ => .error ("cannot get keys from " ++ kindOf a0)
  | "values" =>
    match a0 with
    | .map _ _ kvs => plain (.array .any (kvs.map (·.2)))
    | _ => .error ("cannot get values from " ++ kindOf a0)
  | "toPairs" =>
    match a0 with
    | .map _ _ kvs => plain (.array .any (kvs.map fun (k, v) => .array .any [k, v]))
    | _ => .error ("cannot transform " ++ kindOf a0 ++ " to pairs")
  | "fromPairs" => plain (← fromPairs a0)
  | "sort" =>
    let xs ← listArg "sort" a0
    let desc ← orderOf (args[1]?)
    let sorted ← sortValues desc xs
    .ok (.array .any sorted, xs.length)
  | "reverse" =>
    let xs ← listArg "reverse" a0
    .ok (.array .any xs.reverse, xs.length)
  | "uniq" => plain (.array .any (uniq (← listArg "uniq" a0)))
  | "concat" =>
    let lists ← args.mapM (listArg "concat")
    let all := lists.flatten
    .ok (.array .any all, all.length)
  | "flatten" => plain (.array .any (flatten depthLimit (← listArg "flatten" a0)))
  | "bitand" => plain (.int (bitwise (· &&& ·) (← asIntExact a0) (← asIntExact a1)))
  | "bitor" => plain (.int (bitwise (· ||| ·) (← asIntExact a0) (← asIntExact a1)))
  | "bitxor" => plain (.int (bitwise (· ^^^ ·) (← asIntExact a0) (← asIntExact a1)))
  | "bitnand" =>
    plain (.int (bitwise (fun x y => x &&& (Nat.pow 2 64 - 1 - y)) (← asIntExact a0) (← asIntExact a1)))
  | "bitnot" => plain (.int (wrap (-(← asIntExact a0) - 1)))
  | "bitshl" => plain (.int (← shiftLeft (← asIntExact a0) (← asIntExact a1)))
  | "bitshr" => plain (.int (← shiftRight (← asIntExact a0) (← asIntExact a1)))
  | "bitushr" => plain (.int (← shiftRightUnsigned (← asIntExact a0) (← asIntExact a1)))
  | _ => .error (name ++ " is not available")

end Builtin

end Expr

end ProcessTitle
