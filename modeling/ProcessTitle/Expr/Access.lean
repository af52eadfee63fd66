import ProcessTitle.Expr.Coerce

/-!
# Indexing, slicing and membership
-/

namespace ProcessTitle

namespace Expr

namespace Value

/-- The entry for a key of a map, if there is one. A key of the wrong type is refused, as a
typed map lookup is. -/
def lookup (keyTy : Ty) (entries : List (Value × Value)) (k : Value) : Except String (Option Value) :=
  let fits := match keyTy, k with
    | .any, _ => true
    | .string, .str _ => true
    | .int, .int _ => true
    | _, _ => false
  if !fits then
    .error ("reflect.Value.MapIndex: value of type " ++ k.typeName ++ " is not assignable to type " ++
      keyTy.name)
  else .ok ((entries.find? fun (k', _) => sameKey k k').map (·.2))

/-- The position an index stands for in a sequence of `len` items: negative counts from the
end. -/
def position (i : Int) (len : Nat) : Int := if i < 0 then len + i else i

/-- The element of a list, the byte of a string, or the value of a map at `i`. -/
def fetch (base i : Value) : Except String Value :=
  let outOfRange (idx : Int) (len : Nat) : String :=
    "index out of range: " ++ toString idx ++ " (array length is " ++ toString len ++ ")"
  match base with
  | .array _ xs => do
    let idx := position (← i.toInt) xs.length
    if idx < 0 || idx ≥ xs.length then .error (outOfRange idx xs.length)
    else .ok (xs.getD idx.toNat .nil)
  | .str s => do
    let idx := position (← i.toInt) s.length
    if idx < 0 || idx ≥ s.length then .error (outOfRange idx s.length)
    else .ok (.byte (s.getD idx.toNat 0))
  | .map k v entries => do
    match ← lookup k entries i with
    | some x => .ok x
    | none => .ok (zero v)
  | _ => .error ("cannot fetch " ++ Utf8.toText i.print ++ " from " ++ base.typeName)

/-- Like `fetch`, but nil for an index out of range or a missing key. -/
def get (base i : Value) : Except String Value :=
  match base with
  | .array _ xs => do
    let idx := position (← i.toInt) xs.length
    if idx < 0 || idx ≥ xs.length then .ok .nil else .ok (xs.getD idx.toNat .nil)
  | .str s => do
    let idx := position (← i.toInt) s.length
    if idx < 0 || idx ≥ s.length then .ok .nil else .ok (.byte (s.getD idx.toNat 0))
  | .map k _ entries => do
    match ← lookup k entries i with
    | some x => .ok x
    | none => .ok .nil
  | .nil => .error ("cannot fetch " ++ Utf8.toText i.print ++ " from " ++ base.typeName)
  | _ => .ok .nil

/-- The bounds of a slice of `len` items, clamped into `[0, len]` with `lo ≤ hi`. -/
def sliceBounds (lo hi : Int) (len : Nat) : Nat × Nat :=
  let a := position lo len
  let a := if a < 0 then 0 else a
  let b := position hi len
  let b := if b < 0 then 0 else b
  let b := if b > len then (len : Int) else b
  let a := if a > b then b else a
  (a.toNat, b.toNat)

/-- The items of a list or the bytes of a string from `lo` to `hi`; a missing bound is the
start or the end. -/
def slice (v : Value) (lo hi : Option Value) : Except String Value := do
  let len : Nat := match v with
    | .array _ xs => xs.length
    | .str s => s.length
    | _ => 0
  let a ← match lo with
    | some x => x.toInt
    | none => pure 0
  let b ← match hi with
    | some x => x.toInt
    | none => pure (len : Int)
  let (a, b) := sliceBounds a b len
  match v with
  | .array d xs => .ok (.array d ((xs.drop a).take (b - a)))
  | .str s => .ok (.str ((s.drop a).take (b - a)))
  | _ => .error ("cannot slice " ++ Utf8.toText v.print)

/-- Whether `needle` is an element of a list or a key of a map; nil stands for the zero value
of the map's key type. -/
def contains (needle hay : Value) : Except String Bool :=
  match hay with
  | .nil => .ok false
  | .array _ xs => .ok (xs.any fun x => equal x needle)
  | .map k _ entries => do
    let key := if needle.isNil then zero k else needle
    return (← lookup k entries key).isSome
  | _ => .error ("operator \"in\" not defined on " ++ hay.typeName)

def first : Value → Value
  | .array _ (x :: _) => x
  | .str (b :: _) => .byte b
  | _ => .nil

def last : Value → Value
  | .array _ xs => xs.getLastD .nil
  | .str s => match s.getLast? with
    | some b => .byte b
    | none => .nil
  | _ => .nil

end Value

end Expr

end ProcessTitle
