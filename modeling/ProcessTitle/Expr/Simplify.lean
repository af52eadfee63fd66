import ProcessTitle.Expr.Syntax
import ProcessTitle.Expr.Arith

/-!
# Simplifying checked trees

A checked tree is simplified before it runs, in passes that each walk the tree children first:
literal membership becomes a key set, constants are folded, literal ranges become comparisons,
filters followed by `map`, `len`, `first` or `last` become selections, counts and searches,
and sums of literal ranges become closed formulas. The simplified tree computes what the
checked one does on every input where neither fails.
-/

namespace ProcessTitle

namespace Expr

namespace Node

def withPos (p : Nat) : Node → Node
  | .nil _ => .nil p
  | .bool _ b => .bool p b
  | .int _ n => .int p n
  | .float _ x => .float p x
  | .str _ s => .str p s
  | .bytes _ b => .bytes p b
  | .ident _ n => .ident p n
  | .pointer _ n => .pointer p n
  | .unary _ op e => .unary p op e
  | .binary _ op l r => .binary p op l r
  | .member _ b q o => .member p b q o
  | .slice _ b lo hi => .slice p b lo hi
  | .call _ c args => .call p c args
  | .builtin _ n args => .builtin p n args
  | .predicate _ b => .predicate p b
  | .cond _ c y n => .cond p c y n
  | .array _ items => .array p items
  | .map _ pairs => .map p pairs
  | .chain _ e => .chain p e
  | .letIn _ n v b => .letIn p n v b
  | .seq _ items => .seq p items
  | .constArray _ items => .constArray p items
  | .keySet _ ints keys => .keySet p ints keys
  | .select _ c pr pj => .select p c pr pj
  | .pick _ e f c pr pj => .pick p e f c pr pj
  | .countTo _ c pr l => .countTo p c pr l

def mapChildrenM {m : Type → Type} [Monad m] (f : Node → m Node) : Node → m Node
  | .unary p op e => return .unary p op (← f e)
  | .binary p op l r => return .binary p op (← f l) (← f r)
  | .member p b q o => return .member p (← f b) (← f q) o
  | .slice p b lo hi => return .slice p (← f b) (← lo.mapM f) (← hi.mapM f)
  | .call p c args => return .call p (← f c) (← args.mapM f)
  | .builtin p n args => return .builtin p n (← args.mapM f)
  | .predicate p b => return .predicate p (← f b)
  | .cond p c y n => return .cond p (← f c) (← f y) (← f n)
  | .array p items => return .array p (← items.mapM f)
  | .map p pairs => return .map p (← pairs.mapM fun (k, v) => return (← f k, ← f v))
  | .chain p e => return .chain p (← f e)
  | .letIn p n v b => return .letIn p n (← f v) (← f b)
  | .seq p items => return .seq p (← items.mapM f)
  | .select p c pr pj => return .select p (← f c) (← f pr) (← f pj)
  | .pick p e t c pr pj => return .pick p e t (← f c) (← f pr) (← pj.mapM f)
  | .countTo p c pr l => return .countTo p (← f c) (← f pr) l
  | n => return n

def children (n : Node) : List Node :=
  let collect : Node → StateM (List Node) Node := fun c => do
    modify (· ++ [c])
    pure c
  ((n.mapChildrenM collect).run []).2

/-- Rewrites a tree children first: `step` sees each node after its children are rewritten.
Nodes nested deeper than `fuel` are left as they are. -/
def rewriteM {m : Type → Type} [Monad m] (step : Node → m Node) : Nat → Node → m Node
  | 0, n => pure n
  | fuel + 1, n => do step (← n.mapChildrenM (rewriteM step fuel))

def rewrite (step : Node → Node) (fuel : Nat) (n : Node) : Node :=
  Id.run (rewriteM (fun x => pure (step x)) fuel n)

def label : Node → String
  | .nil _ => "nil"
  | .bool _ b => "bool " ++ toString b
  | .int _ n => "int " ++ toString n
  | .float _ x => "float " ++ toString x.toBits
  | .str _ s => "str " ++ toString s
  | .bytes _ b => "bytes " ++ toString b
  | .ident _ n => "ident " ++ n
  | .pointer _ n => "pointer " ++ n
  | .unary _ op _ => "unary " ++ op
  | .binary _ op _ _ => "binary " ++ op
  | .member _ _ _ o => "member " ++ toString o
  | .slice _ _ lo hi => "slice " ++ toString lo.isSome ++ toString hi.isSome
  | .call _ _ _ => "call"
  | .builtin _ n _ => "builtin " ++ n
  | .predicate _ _ => "predicate"
  | .cond _ _ _ _ => "cond"
  | .array _ _ => "array"
  | .map _ _ => "map"
  | .chain _ _ => "chain"
  | .letIn _ n _ _ => "let " ++ n
  | .seq _ _ => "seq"
  | .constArray _ _ => "constArray"
  | .keySet _ ints _ => "keySet " ++ toString ints
  | .select _ _ _ _ => "select"
  | .pick _ e f _ _ pj => "pick " ++ toString e ++ toString f ++ toString pj.isSome
  | .countTo _ _ _ l => "countTo " ++ toString l

/-- A text of the whole tree without positions: two trees have the same shape exactly when
their shapes are equal (below `fuel` levels). -/
def shape : Nat → Node → String
  | 0, _ => "…"
  | fuel + 1, n =>
    label n ++ "(" ++ ",".intercalate (n.children.map (shape fuel)) ++ ")"

def mentionsIndex : Nat → Node → Bool
  | 0, _ => false
  | fuel + 1, n =>
    match n with
    | .pointer _ "index" => true
    | _ => n.children.any (mentionsIndex fuel)

end Node

namespace Simplify

/-! ### Membership in a list of literals -/

def isIntLiteral : Node → Bool
  | .int _ _ => true
  | _ => false

def isStrLiteral : Node → Bool
  | .str _ _ => true
  | _ => false

/-- A membership test in a list of literals becomes a lookup in a set of keys: integer keys
when the tested value is an integer (its position is among `ints`), string keys otherwise. -/
def keySetStep (ints : List Nat) : Node → Node
  | n@(.binary pos "in" l (.array _ items)) =>
    if items.isEmpty then n
    else if ints.contains l.pos && items.all isIntLiteral then .binary pos "in" l (.keySet 0 true items)
    else if items.all isStrLiteral then .binary pos "in" l (.keySet 0 false items)
    else n
  | n => n

/-! ### Folding constants -/

/-- What a folding pass records: whether it changed anything, and the position of the last
remainder by a constant zero it met. -/
structure FoldState where
  changed : Bool := false
  zeroRemainder : Option Nat := none

def literal? : Node → Option Value
  | .int _ n => some (.int n)
  | .float _ x => some (.float x)
  | .str _ s => some (.str s)
  | .bool _ b => some (.bool b)
  | _ => none

def literalNode? (pos : Nat) : Value → Option Node
  | .int n => some (.int pos n)
  | .float x => some (.float pos x)
  | .str s => some (.str pos s)
  | .bool b => some (.bool pos b)
  | _ => none

def isNumeric : Value → Bool
  | .int _ | .float _ => true
  | _ => false

/-- The value of a binary operator on two literals, where folding computes it. -/
def foldBinary (op : String) (a b : Value) : Option Value :=
  let numeric (f : Value → Value → Except String Value) : Option Value :=
    if isNumeric a && isNumeric b then (f a b).toOption else none
  match op with
  | "+" =>
    match a, b with
    | .str x, .str y => some (.str (x ++ y))
    | _, _ => numeric Value.add
  | "-" => numeric Value.sub
  | "*" => numeric Value.mul
  | "/" => numeric Value.div
  | "**" | "^" => numeric Value.pow
  | "%" =>
    match a, b with
    | .int _, .int _ => (Value.mod a b).toOption
    | _, _ => none
  | "==" =>
    match a, b with
    | .int x, .int y => some (.bool (x == y))
    | .str x, .str y => some (.bool (x == y))
    | .float x, .float y => some (.bool (x == y))
    | .bool x, .bool y => some (.bool (x == y))
    | _, _ => none
  | _ => none

def boolLiteral? : Node → Option Bool
  | .bool _ b => some b
  | _ => none

def isConstant : Node → Bool
  | .int _ _ | .float _ _ | .str _ _ | .bool _ _ => true
  | _ => false

def changed (n : Node) : StateM FoldState Node := do
  modify fun st => { st with changed := true }
  return n

/-- One folding step on a node whose children are folded. -/
def foldStep (n : Node) : StateM FoldState Node :=
  match n with
  | .unary pos op e =>
    match op, e with
    | "-", .int _ i => changed (.int pos (Value.wrap (-i)))
    | "-", .float _ x => changed (.float pos (-x))
    | "+", .int _ i => changed (.int pos i)
    | "+", .float _ x => changed (.float pos x)
    | "!", .bool _ b | "not", .bool _ b => changed (.bool pos (!b))
    | _, _ => pure n
  | .binary pos op l r =>
    if op == "and" || op == "&&" then
      match boolLiteral? l, boolLiteral? r with
      | some true, _ => changed (r.withPos pos)
      | _, some true => changed (l.withPos pos)
      | some false, _ | _, some false => changed (.bool pos false)
      | _, _ => pure n
    else if op == "or" || op == "||" then
      match boolLiteral? l, boolLiteral? r with
      | some false, _ => changed (r.withPos pos)
      | _, some false => changed (l.withPos pos)
      | some true, _ | _, some true => changed (.bool pos true)
      | _, _ => pure n
    else
      match literal? l, literal? r with
      | some a, some b =>
        if op == "%" && isIntLiteral l && (match b with
            | .int y => y == 0
            | _ => false) then do
          modify fun st => { st with zeroRemainder := some pos }
          pure n
        else
          match (foldBinary op a b).bind (literalNode? pos) with
          | some folded => changed folded
          | none => pure n
      | _, _ => pure n
  | .array pos items =>
    if !items.isEmpty && items.all isConstant then changed (.constArray pos items) else pure n
  | .builtin pos "filter" [.builtin _ "filter" [coll, inner], outer] =>
    changed (.builtin pos "filter" [coll, .binary 0 "&&" inner outer])
  | _ => pure n

/-- Folds constants until a pass changes nothing (at most a thousand and one passes); fails
with the position of a remainder by zero met in a pass. -/
def foldConstants (fuel : Nat) : Nat → Node → Except Nat Node
  | 0, t => .ok t
  | passes + 1, t =>
    let (t', st) := (Node.rewriteM foldStep fuel t).run {}
    match st.zeroRemainder with
    | some p => .error p
    | none => if st.changed then foldConstants fuel passes t' else .ok t'

/-! ### Ranges, filters and predicates -/

/-- An integer tested for membership in a range with literal bounds becomes two
comparisons. -/
def rangeStep (ints : List Nat) : Node → Node
  | n@(.binary pos "in" l (.binary _ ".." (.int fp a) (.int tp b))) =>
    if ints.contains l.pos then
      .binary pos "and" (.binary 0 ">=" l (.int fp a)) (.binary 0 "<=" l (.int tp b))
    else n
  | n => n

/-- A `map` over a `filter` becomes a selection, unless the mapping uses `#index`. -/
def selectStep (fuel : Nat) : Node → Node
  | n@(.builtin pos "map" [.builtin _ "filter" [coll, pred], .predicate _ body]) =>
    if Node.mentionsIndex fuel body then n else .select pos coll pred body
  | n => n

def filterParts? : Node → Option (Node × Node × Option Node)
  | .builtin _ "filter" [coll, pred] => some (coll, pred, none)
  | .select _ coll pred body => some (coll, pred, some body)
  | _ => none

def countStep : Node → Node
  | n@(.builtin pos "len" [f]) =>
    match filterParts? f with
    | some (coll, pred, _) => .builtin pos "count" [coll, pred]
    | none => n
  | n => n

/-- The last element of a filter becomes a search from the end: failing when written `[-1]`,
nil when written `last`. -/
def lastStep : Node → Node
  | n@(.member pos f (.int _ i) false) =>
    match filterParts? f with
    | some (coll, pred, body) => if i == -1 then .pick pos true true coll pred body else n
    | none => n
  | n@(.builtin pos "last" [f]) =>
    match filterParts? f with
    | some (coll, pred, body) => .pick pos true false coll pred body
    | none => n
  | n => n

/-- The first element of a filter becomes a search: failing when written `[0]`, nil when
written `first`. -/
def firstStep : Node → Node
  | n@(.member pos f (.int _ i) false) =>
    match filterParts? f with
    | some (coll, pred, body) => if i == 0 then .pick pos false true coll pred body else n
    | none => n
  | n@(.builtin pos "first" [f]) =>
    match filterParts? f with
    | some (coll, pred, body) => .pick pos false false coll pred body
    | none => n
  | n => n

/-- The operator that joins the predicates of two calls of `fn` joined by `op`: `all` by
`and`, `any` by `or`, and `none` by `and` with the predicates joined by `or`. -/
def joinedOperator (fn op : String) : Option String :=
  if fn == "all" && (op == "and" || op == "&&") then some op
  else if fn == "any" && (op == "or" || op == "||") then some op
  else if fn == "none" && op == "and" then some "or"
  else if fn == "none" && op == "&&" then some "||"
  else none

/-- Two calls of `all`, `any` or `none` over collections of the same shape, joined by the
matching operator, become one call; the joined predicate is itself simplified once more. -/
def combineStep (fuel : Nat) : Nat → Node → Node
  | 0, n => n
  | depth + 1, n =>
    match n with
    | .binary pos op (.builtin _ f [c1, .predicate _ b1]) (.builtin _ g [c2, .predicate _ b2]) =>
      match joinedOperator f op with
      | some joined =>
        if f == g && Node.shape fuel c1 == Node.shape fuel c2 then
          .builtin pos f [c1, .predicate 0 (combineStep fuel depth (.binary 0 joined b1 b2))]
        else n
      | none => n
    | _ => n

/-! ### Sums and counts -/

def sumOf : List Node → Node
  | [a, b] => .binary 0 "+" a b
  | a :: rest@(_ :: _ :: _) => .binary 0 "+" a (sumOf rest)
  | [a] => a
  | [] => .int 0 0

/-- The sum of a list literal of at least two items becomes additions. -/
def sumListStep : Node → Node
  | n@(.builtin pos "sum" [.array _ items]) =>
    if items.length ≥ 2 then (sumOf items).withPos pos else n
  | n => n

/-- The sum of the integers from `a` to `b`, computed in wrapping 64-bit arithmetic as
`n · (a + b) / 2` with `n = b - a + 1`, the division going toward zero. -/
def rangeSum (a b : Int) : Int :=
  Int.tdiv (Value.wrap (Value.wrap (b - a + 1) * Value.wrap (a + b))) 2

/-- The sum over `a..b` of a predicate body, in closed form: `#`, `# * k`, `k * #`,
`# + k`, `k + #`, `# - k` and `k - #` for an integer literal `k`. -/
def predicateSum (a b : Int) : Node → Option Int
  | .pointer _ "" => some (rangeSum a b)
  | .binary _ "*" (.pointer _ "") (.int _ k) | .binary _ "*" (.int _ k) (.pointer _ "") =>
    some (Value.wrap (k * rangeSum a b))
  | .binary _ "+" (.pointer _ "") (.int _ k) | .binary _ "+" (.int _ k) (.pointer _ "") =>
    some (Value.wrap (rangeSum a b + Value.wrap (k * (b - a + 1))))
  | .binary _ "-" (.pointer _ "") (.int _ k) =>
    some (Value.wrap (rangeSum a b - Value.wrap (k * (b - a + 1))))
  | .binary _ "-" (.int _ k) (.pointer _ "") =>
    some (Value.wrap (Value.wrap (k * (b - a + 1)) - rangeSum a b))
  | _ => none

def addsToAccumulator : Node → Bool
  | .binary _ "+" (.pointer _ "") (.pointer _ "acc")
  | .binary _ "+" (.pointer _ "acc") (.pointer _ "") => true
  | _ => false

/-- Sums over a range with literal bounds, `a ≤ b`, become their closed form. -/
def rangeSumStep : Node → Node
  | n@(.builtin pos "sum" [.binary _ ".." (.int _ a) (.int _ b)]) =>
    if a ≤ b then .int pos (rangeSum a b) else n
  | n@(.builtin pos "sum" [.binary _ ".." (.int _ a) (.int _ b), .predicate _ body]) =>
    if a ≤ b then
      match predicateSum a b body with
      | some s => .int pos s
      | none => n
    else n
  | n@(.builtin pos "reduce" [.binary _ ".." (.int _ a) (.int _ b), .predicate _ body]) =>
    if a ≤ b && addsToAccumulator body then .int pos (rangeSum a b) else n
  | n => n

/-- The sum of a `map` becomes a sum with the mapping as its predicate. -/
def sumMapStep : Node → Node
  | .builtin pos "sum" [.builtin _ "map" [coll, f]] => .builtin pos "sum" [coll, f]
  | n => n

/-- The count at which a comparison of a count with `k` is decided: `> k` and `<= k` at
`k + 1`, `>= k` and `< k` at `k`. -/
def countLimit (op : String) (k : Int) : Option Nat :=
  if k < 0 then none
  else
    let limit := if op == ">" || op == "<=" then k + 1
      else if op == ">=" || op == "<" then k else 0
    if limit > 0 then some limit.toNat else none

/-- A count compared with an integer literal stops counting once the comparison is
decided. -/
def countLimitStep : Node → Node
  | n@(.binary pos op (.builtin cpos "count" [coll, pred]) (.int kpos k)) =>
    match countLimit op k with
    | some limit => .binary pos op (.countTo cpos coll pred limit) (.int kpos k)
    | none => n
  | n => n

end Simplify

open Simplify in
/-- Simplifies a checked tree. `ints` are the positions of the integer operands on the left
of `in`; `fuel` bounds the depth walked. Fails on a remainder by a constant zero. -/
def Node.simplify (fuel : Nat) (ints : List Nat) (tree : Node) : Except Located Node := do
  let tree := Node.rewrite (keySetStep ints) fuel tree
  let tree ← match foldConstants fuel 1001 tree with
    | .ok t => pure t
    | .error p => throw (Located.ofString p "integer divide by zero")
  let tree := Node.rewrite (rangeStep ints) fuel tree
  let tree := Node.rewrite (selectStep fuel) fuel tree
  let tree := Node.rewrite countStep fuel tree
  let tree := Node.rewrite lastStep fuel tree
  let tree := Node.rewrite firstStep fuel tree
  let tree := Node.rewrite (combineStep fuel fuel) fuel tree
  let tree := Node.rewrite sumListStep fuel tree
  let tree := Node.rewrite rangeSumStep fuel tree
  let tree := Node.rewrite sumMapStep fuel tree
  return Node.rewrite countLimitStep fuel tree

end Expr

end ProcessTitle
