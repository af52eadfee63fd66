import ProcessTitle.Text.Bytes

/-!
The syntax tree of a title expression, the errors that point into its source, and the names of
the built-in functions.
-/
namespace ProcessTitle

namespace Expr

/-- An error message and the character offset it refers to. -/
structure Located where
  message : Bytes
  pos : Nat
deriving Repr, Inhabited

namespace Located

def ofString (pos : Nat) (msg : String) : Located := ⟨Bytes.ofString msg, pos⟩

/-- The error with its line, column and the source line it points into, with a marker under
the column: one dot per character before it, then a caret. Tabs in the line are shown as
spaces. When the line is empty the message is shown alone. -/
def render (src : List Char) (e : Located) : Bytes :=
  let before := src.take e.pos
  let lineNo := 1 + before.count '\n'
  let col := (before.reverse.takeWhile (· != '\n')).length
  let line := ((src.drop (before.length - col)).takeWhile (· != '\n')).map fun c =>
    if c == '\t' then ' ' else c
  if line.isEmpty then e.message
  else
    e.message ++ Bytes.ofString (" (" ++ toString lineNo ++ ":" ++ toString (col + 1) ++ ")" ++
      "\n | " ++ String.ofList line ++ "\n | " ++ String.ofList (List.replicate col '.') ++ "^")

end Located

/-- A node of the syntax tree. Every node carries the character offset that errors about it
point to. A `predicate` is the body of a closure passed to a collection function, in which `#`
(or `#name`) refers to the current element (or to a loop variable such as `#acc`); a `chain`
delimits a run of optional accesses (`a?.b`), nil as a whole when one of them meets nil. -/
inductive Node where
  | nil (pos : Nat)
  | bool (pos : Nat) (b : Bool)
  | int (pos : Nat) (n : Int)
  | float (pos : Nat) (x : Float)
  | str (pos : Nat) (s : Bytes)
  /-- A byte string literal, `b"..."`. -/
  | bytes (pos : Nat) (b : Bytes)
  | ident (pos : Nat) (name : String)
  | pointer (pos : Nat) (name : String)
  | unary (pos : Nat) (op : String) (e : Node)
  | binary (pos : Nat) (op : String) (l r : Node)
  /-- Access to a field or an element; `optional` for `?.`. -/
  | member (pos : Nat) (base prop : Node) (optional : Bool)
  | slice (pos : Nat) (base : Node) (lo hi : Option Node)
  | call (pos : Nat) (callee : Node) (args : List Node)
  | builtin (pos : Nat) (name : String) (args : List Node)
  | predicate (pos : Nat) (body : Node)
  | cond (pos : Nat) (c yes no : Node)
  | array (pos : Nat) (items : List Node)
  | map (pos : Nat) (pairs : List (Node × Node))
  | chain (pos : Nat) (e : Node)
  | letIn (pos : Nat) (name : String) (value body : Node)
  | seq (pos : Nat) (items : List Node)
  /-- A list of constants, known before anything runs. -/
  | constArray (pos : Nat) (items : List Node)
  /-- A set of constant keys, integers or strings, that `in` looks a value up in. -/
  | keySet (pos : Nat) (ints : Bool) (keys : List Node)
  /-- The elements of a collection for which the predicate holds, each replaced by the value
  of `project` for it. -/
  | select (pos : Nat) (coll pred project : Node)
  /-- The first (or last) element of a collection for which the predicate holds, or the value
  of `project` for it; when there is none, nil, or a failure if `orFail`. -/
  | pick (pos : Nat) (fromEnd orFail : Bool) (coll pred : Node) (project : Option Node)
  /-- How many elements of a collection satisfy the predicate, counting no further than
  `limit`. -/
  | countTo (pos : Nat) (coll pred : Node) (limit : Nat)
deriving Repr, Inhabited

namespace Node

def pos : Node → Nat
  | .nil p | .bool p _ | .int p _ | .float p _ | .str p _ | .ident p _ | .pointer p _
  | .unary p _ _ | .binary p _ _ _ | .member p _ _ _ | .slice p _ _ _ | .call p _ _
  | .builtin p _ _ | .predicate p _ | .cond p _ _ _ | .array p _ | .map p _ | .chain p _
  | .letIn p _ _ _ | .seq p _ | .bytes p _ | .constArray p _ | .keySet p _ _ | .select p _ _ _
  | .pick p _ _ _ _ _ | .countTo p _ _ _ => p

end Node

namespace Catalog

/-- How one argument of a collection function is written. -/
inductive ArgShape where
  | expr
  | predicate
  | optionalExpr
  | optionalPredicate
deriving DecidableEq, Repr

/-- The argument shapes of the collection functions that take a predicate. -/
def predicateShapes : String → Option (List ArgShape)
  | "all" | "none" | "any" | "one" | "filter" | "map" | "find" | "findIndex" | "findLast"
  | "findLastIndex" | "groupBy" => some [.expr, .predicate]
  | "count" | "sum" => some [.expr, .optionalPredicate]
  | "sortBy" | "reduce" => some [.expr, .predicate, .optionalExpr]
  | _ => none

def functions : List String :=
  ["all", "none", "any", "one", "filter", "map", "find", "findIndex", "findLast", "findLastIndex",
   "count", "sum", "groupBy", "sortBy", "reduce", "len", "type", "abs", "ceil", "floor", "round",
   "int", "float", "string", "trim", "trimPrefix", "trimSuffix", "upper", "lower", "split",
   "splitAfter", "replace", "repeat", "join", "indexOf", "lastIndexOf", "hasPrefix", "hasSuffix",
   "max", "min", "mean", "median", "toJSON", "fromJSON", "toBase64", "fromBase64", "now",
   "duration", "date", "timezone", "first", "last", "get", "take", "keys", "values", "toPairs",
   "fromPairs", "sort", "reverse", "uniq", "concat", "flatten", "bitand", "bitor", "bitxor",
   "bitnand", "bitnot", "bitshl", "bitshr", "bitushr"]

def isFunction (name : String) : Bool := functions.contains name

end Catalog

end Expr

end ProcessTitle
