/-!
Types of the title expression language, as the checker sees them.
-/

namespace ProcessTitle

namespace Expr

inductive Ty where
  | unknown
  | any
  | nil
  | bool
  | int
  | float
  | string
  | byte
  | duration
  | func (name : String)
  /-- A list declared with elements of type `decl`, whose members are known to have type `elem`. -/
  | array (decl elem : Ty)
  | map (key val : Ty)
deriving DecidableEq, Repr, Inhabited

namespace Ty

def arrayOf (t : Ty) : Ty := .array t t

/-- A heterogeneous list whose members are known to have type `t`. -/
def listOf (t : Ty) : Ty := .array .any t

def list : Ty := .array .any .unknown

def name : Ty → String
  | .unknown => "unknown"
  | .any => "interface \x7b\x7d"
  | .nil => "unknown"
  | .bool => "bool"
  | .int => "int"
  | .float => "float64"
  | .string => "string"
  | .byte => "uint8"
  | .duration => "time.Duration"
  | .func _ => "func(...interface \x7b\x7d) (interface \x7b\x7d, error)"
  | .array d _ => "[]" ++ d.name
  | .map k v => "map[" ++ k.name ++ "]" ++ v.name

def isUnknown : Ty → Bool
  | .unknown | .any => true
  | _ => false

def isInteger : Ty → Bool
  | .int | .byte => true
  | _ => false

def isNumber : Ty → Bool
  | .int | .byte | .float => true
  | _ => false

def isString (t : Ty) : Bool := t == .string

def isBool (t : Ty) : Bool := t == .bool

def isNil (t : Ty) : Bool := t == .nil

def isDuration (t : Ty) : Bool := t == .duration

def isArray : Ty → Bool
  | .array _ _ => true
  | _ => false

def isMap : Ty → Bool
  | .map _ _ => true
  | _ => false

def decl : Ty → Ty
  | .array d _ => .array d d
  | t => t

def elem : Ty → Ty
  | .array _ e => e
  | .map _ v => v
  | _ => .unknown

/-- Values of `t` may be stored where `u` is declared: the same declared type, or any value
where anything is allowed. -/
def assignableTo (t u : Ty) : Bool :=
  u == .any || t.decl == u.decl

/-- A mix of two numbers is an integer when both are, and a float otherwise. -/
def combined (l r : Ty) : Ty :=
  if l.isInteger && r.isInteger then .int else .float

def comparable (l r : Ty) : Bool :=
  l.isUnknown || r.isUnknown || l.isNil || r.isNil || (l.isNumber && r.isNumber) ||
    (l.isArray && r.isArray) || l.assignableTo r

/-- One side is unknown and the other satisfies `p`, or both are unknown. -/
def eitherUnknown (l r : Ty) (p : Ty → Bool) : Bool :=
  (l.isUnknown && r.isUnknown) || (l.isUnknown && p r) || (r.isUnknown && p l)

end Ty

end Expr

end ProcessTitle
