import ProcessTitle.Expr.Value
import ProcessTitle.Numeric.Power

/-!
Arithmetic, comparison and equality on values: integers wrap at 64 bits, a float taking part
makes the result a float, and anything else fails with the operation and the operand types.
-/

namespace ProcessTitle

namespace Expr

namespace Value

def asInt? : Value → Option Int
  | .int n => some n
  | .byte b => some b.toNat
  | _ => none

def asFloat? : Value → Option Float
  | .int n => some (Float.ofInt n)
  | .byte b => some (Float.ofNat b.toNat)
  | .float x => some x
  | _ => none

def isFloat : Value → Bool
  | .float _ => true
  | _ => false

def opError (op : String) (a b : Value) : String :=
  "invalid operation: " ++ a.typeName ++ " " ++ op ++ " " ++ b.typeName

def numeric (op : String) (onInt : Int → Int → Int) (onFloat : Float → Float → Float)
    (a b : Value) : Except String Value :=
  match a.asInt?, b.asInt? with
  | some x, some y => .ok (.int (wrap (onInt x y)))
  | _, _ =>
    match a.asFloat?, b.asFloat? with
    | some x, some y => .ok (.float (onFloat x y))
    | _, _ => .error (opError op a b)

def add (a b : Value) : Except String Value :=
  match a, b with
  | .str x, .str y => .ok (.str (x ++ y))
  | .duration x, .duration y => .ok (.duration (wrap (x + y)))
  | _, _ => numeric "+" (· + ·) (· + ·) a b

def sub (a b : Value) : Except String Value :=
  match a, b with
  | .duration x, .duration y => .ok (.duration (wrap (x - y)))
  | _, _ => numeric "-" (· - ·) (· - ·) a b

def mul (a b : Value) : Except String Value :=
  match a, b with
  | .duration x, .duration y => .ok (.duration (wrap (x * y)))
  | .duration x, .int y => .ok (.duration (wrap (x * y)))
  | .int x, .duration y => .ok (.duration (wrap (x * y)))
  | .duration x, .float y => .ok (.float (Float.ofInt x * y))
  | .float x, .duration y => .ok (.float (x * Float.ofInt y))
  | _, _ => numeric "*" (· * ·) (· * ·) a b

def div (a b : Value) : Except String Value :=
  match a.asFloat?, b.asFloat? with
  | some x, some y => .ok (.float (x / y))
  | _, _ => .error (opError "/" a b)

/-- `a % b` on integers; the remainder takes the sign of `a`. -/
def mod (a b : Value) : Except String Value :=
  match a.asInt?, b.asInt? with
  | some _, some 0 => .error "runtime error: integer divide by zero"
  | some x, some y => .ok (.int (wrap (Int.tmod x y)))
  | _, _ => .error (opError "%" a b)

def pow (a b : Value) : Except String Value :=
  match a.asFloat?, b.asFloat? with
  | some x, some y => .ok (.float (Numeric.pow x y))
  | _, _ => .error (opError "**" a b)

def neg : Value → Except String Value
  | .int n => .ok (.int (wrap (-n)))
  | .float x => .ok (.float (-x))
  | .byte b => .ok (.byte (0 - b))
  | .duration n => .ok (.duration (wrap (-n)))
  | v => .error ("invalid operation: - " ++ v.typeName)

/-- Whether `a < b`, for numbers, strings and durations. -/
def lt (op : String) (a b : Value) : Except String Bool :=
  match a, b with
  | .str x, .str y => .ok (Bytes.lexLt x y)
  | .duration x, .duration y => .ok (x < y)
  | _, _ =>
    match a.asInt?, b.asInt? with
    | some x, some y => .ok (x < y)
    | _, _ =>
      match a.asFloat?, b.asFloat? with
      | some x, some y => .ok (x < y)
      | _, _ => .error (opError op a b)

def compareOp (op : String) (a b : Value) : Except String Bool :=
  match op with
  | "<" => lt op a b
  | ">" => lt op b a |>.mapError fun _ => opError op a b
  | "<=" => (lt op b a).map (!·) |>.mapError fun _ => opError op a b
  | _ => (lt op a b).map (!·) |>.mapError fun _ => opError op a b

/-- Deep equality: the same kind and the same contents, lists and maps element by element
with the same declared types. An integer never equals a float here. -/
def same : Value → Value → Bool
  | .nil, .nil => true
  | .bool x, .bool y => x == y
  | .int x, .int y => x == y
  | .float x, .float y => x == y
  | .str x, .str y => x == y
  | .byte x, .byte y => x == y
  | .duration x, .duration y => x == y
  | .array d xs, .array d' ys =>
    d == d' && xs.length == ys.length &&
      (xs.attach.zip ys).all fun (⟨x, _⟩, y) => same x y
  | .map k v xs, .map k' v' ys =>
    k == k' && v == v' && xs.length == ys.length &&
      (xs.attach.zip ys).all fun (⟨(a, b), _⟩, (c, d)) => same a c && same b d
  | _, _ => false
termination_by a => a
decreasing_by
  all_goals simp_wf
  all_goals first
    | (have hm := List.sizeOf_lt_of_mem ‹_ ∈ _›; omega)
    | (have h := List.sizeOf_lt_of_mem ‹_ ∈ _›; simp at h; omega)

/-- Equality of the language: numbers by value across kinds, lists element by element
whatever their declared types, everything else deeply. -/
def equal (a b : Value) : Bool :=
  match a, b with
  | .array _ xs, .array _ ys =>
    xs.length == ys.length && (xs.attach.zip ys).all fun (⟨x, _⟩, y) => equal x y
  | _, _ =>
    match a.asInt?, b.asInt? with
    | some x, some y => x == y
    | _, _ =>
      match a.asFloat?, b.asFloat? with
      | some x, some y => x == y
      | _, _ => same a b
termination_by a
decreasing_by
  simp_wf
  have hm := List.sizeOf_lt_of_mem ‹_ ∈ _›
  omega

end Value

end Expr

end ProcessTitle
