import ProcessTitle.Expr.Arith

/-!
# Reading values as a given type
-/

namespace ProcessTitle

namespace Expr

namespace Value

def conversionFailure (v : Value) (want : String) : String :=
  "interface conversion: interface \x7b\x7d is " ++ (if v.isNil then "nil" else v.typeName) ++
    ", not " ++ want

def asStr : Value → Except String Bytes
  | .str s => .ok s
  | v => .error (conversionFailure v "string")

def asBool : Value → Except String Bool
  | .bool b => .ok b
  | v => .error (conversionFailure v "bool")

def asIntExact : Value → Except String Int
  | .int n => .ok n
  | v => .error (conversionFailure v "int")

def minInt : Int := -(Int.pow 2 63)

/-- A float truncated toward zero to a 64-bit integer; out of range or NaN gives the least
integer. -/
def truncFloat (x : Float) : Int :=
  if x.isNaN || x ≥ 9223372036854775808.0 || x < -9223372036854775808.0 then minInt
  else
    let n : Int := (Float.floor (Float.abs x)).toUInt64.toNat
    if x < 0 then -n else n

def toInt : Value → Except String Int
  | .int n => .ok n
  | .byte b => .ok b.toNat
  | .float x => .ok (truncFloat x)
  | v => .error ("invalid operation: int(" ++ v.typeName ++ ")")

def toFloat : Value → Except String Float
  | .int n => .ok (Float.ofInt n)
  | .byte b => .ok (Float.ofNat b.toNat)
  | .float x => .ok x
  | v => .error ("invalid operation: float(" ++ v.typeName ++ ")")

def kindName : Value → String
  | .nil => "invalid"
  | .bool _ => "bool"
  | .int _ => "int"
  | .float _ => "float64"
  | .str _ => "string"
  | .byte _ => "uint8"
  | .duration _ => "int64"
  | .array _ _ => "slice"
  | .map _ _ _ => "map"

/-- The elements a collection function walks: a list's elements, a string's bytes; anything
else is refused as it would be when its length is taken. -/
def elements : Value → Except String (List Value)
  | .array _ xs => .ok xs
  | .str s => .ok (s.map .byte)
  | .nil => .error "reflect: call of reflect.Value.Len on zero Value"
  | .map _ _ [] => .ok []
  | .map _ _ _ => .error "reflect: call of reflect.Value.Index on map Value"
  | v => .error ("reflect: call of reflect.Value.Len on " ++ v.kindName ++ " Value")

end Value

end Expr

end ProcessTitle
