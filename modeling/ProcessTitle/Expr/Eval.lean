import ProcessTitle.Expr.Syntax
import ProcessTitle.Expr.Builtin
import ProcessTitle.Expr.Methods
import ProcessTitle.Text.Pattern

/-!
# Evaluation

Operands are evaluated left to right, every failure is reported at the node that failed, and
values that take memory count against a budget of a million elements.
-/

namespace ProcessTitle

namespace Expr

/-- Why evaluation stopped early: a failure, or a nil met by an optional access. -/
inductive Stop where
  | fail (e : Located)
  | nilChain

abbrev EvalM := StateT Nat (Except Stop)

/-- The loop of an enclosing predicate: the current element, its position, and the
accumulator of `reduce`. -/
structure Loop where
  elem : Value
  index : Nat
  acc : Value := .nil

/-- What an expression sees: its `let` variables (innermost first), the variables of the
environment, and its enclosing loops, innermost first. -/
structure Frame where
  lets : List (String × Value) := []
  globals : List (String × Value)
  loops : List Loop := []

namespace Eval

def budget : Nat := 1000000

def failAt {α : Type} (pos : Nat) (msg : String) : EvalM α :=
  throw (.fail (Located.ofString pos msg))

def lift {α : Type} (pos : Nat) : Except String α → EvalM α
  | .ok a => pure a
  | .error msg => failAt pos msg

def grow (pos : Nat) (n : Nat) : EvalM Unit := do
  let used := (← get) + n
  set used
  if used ≥ budget then failAt pos "memory budget exceeded"

def binary (op : String) (a b : Value) : Except String Value :=
  match op with
  | "==" => .ok (.bool (Value.equal a b))
  | "!=" => .ok (.bool (!Value.equal a b))
  | "<" | ">" | "<=" | ">=" => (Value.compareOp op a b).map .bool
  | "+" => Value.add a b
  | "-" => Value.sub a b
  | "*" => Value.mul a b
  | "/" => Value.div a b
  | "%" => Value.mod a b
  | "**" | "^" => Value.pow a b
  | "in" => (Value.contains a b).map .bool
  | "contains" => do
    let s ← a.asStr
    let t ← b.asStr
    return .bool (Bytes.contains s t)
  | "startsWith" => do
    let s ← a.asStr
    let t ← b.asStr
    return .bool (t.isPrefixOf s)
  | "endsWith" => do
    let s ← a.asStr
    let t ← b.asStr
    return .bool (t.isSuffixOf s)
  | "matches" => do
    let p ← b.asStr
    let s ← a.asStr
    let prog ← Pattern.compile p
    return .bool (prog.search s)
  | _ => .error ("unknown operator " ++ op)

def range (pos : Nat) (a b : Value) : EvalM Value := do
  let lo ← lift pos a.toInt
  let hi ← lift pos b.toInt
  let size : Nat := if hi - lo + 1 ≤ 0 then 0 else (hi - lo + 1).toNat
  grow pos size
  return .array .int ((List.range size).map fun (i : Nat) => .int (lo + i))

def bodyOf : Node → Node
  | .predicate _ body => body
  | n => n

mutual

def eval : Nat → Frame → Node → EvalM Value
  | 0, _, n => failAt n.pos "expression too deeply nested"
  | fuel + 1, fr, node =>
    match node with
    | .nil _ => return .nil
    | .bool _ b => return .bool b
    | .int _ n => return .int n
    | .float _ x => return .float x
    | .str _ s => return .str s
    | .bytes _ b => return .array .byte (b.map .byte)
    | .ident _ name =>
      match fr.lets.lookup name with
      | some v => return v
      | none =>
        if name == "$env" then return .map .string .any (Value.entriesOf (fr.globals.map
          fun (k, v) => (Value.ofString k, v)))
        else return (fr.globals.lookup name).getD .nil
    | .pointer _ name =>
      match fr.loops with
      | [] => return .nil
      | l :: _ =>
        if name.isEmpty then return l.elem
        else if name == "index" then return .int l.index
        else if name == "acc" then return l.acc
        else return .nil
    | .unary pos op e => do
      let v ← eval fuel fr e
      if op == "!" || op == "not" then
        let b ← lift pos v.asBool
        return .bool (!b)
      else if op == "-" then lift pos (Value.neg v)
      else return v
    | .binary pos op l r => do
      if op == "and" || op == "&&" then
        let a ← eval fuel fr l
        if !(← lift pos a.asBool) then return .bool false
        eval fuel fr r
      else if op == "or" || op == "||" then
        let a ← eval fuel fr l
        if ← lift pos a.asBool then return .bool true
        eval fuel fr r
      else if op == "??" then
        let a ← eval fuel fr l
        if a.isNil then eval fuel fr r else return a
      else
        let a ← eval fuel fr l
        let b ← eval fuel fr r
        if op == ".." then range pos a b
        else lift pos (binary op a b)
    | .member pos base prop optional => access fuel fr pos base prop optional
    | .slice pos base lo hi => do
      let v ← eval fuel fr base
      let a ← match lo with
        | some n => some <$> eval fuel fr n
        | none => pure none
      let b ← match hi with
        | some n => some <$> eval fuel fr n
        | none => pure none
      lift pos (Value.slice v a b)
    | .call pos callee args =>
      match callee with
      | .ident _ name => builtin fuel fr pos name args
      | .member _ base prop optional => do
        let vs ← args.mapM (eval fuel fr)
        let b ← eval fuel fr base
        if optional && b.isNil then throw .nilChain
        let p ← eval fuel fr prop
        let method := match b, p with
          | .duration d, .str s => (DurationMethod.ofName? (Utf8.toText s)).map (·, d)
          | _, _ => none
        match method with
        | some (m, d) => lift pos (m.apply d vs)
        | none =>
          let f ← lift pos (Value.fetch b p)
          failAt pos (DurationMethod.callFailure f)
      | _ => failAt pos "not callable"
    | .builtin pos name args => builtin fuel fr pos name args
    | .predicate _ body => eval fuel fr body
    | .cond pos c yes no => do
      let v ← eval fuel fr c
      if ← lift pos v.asBool then eval fuel fr yes else eval fuel fr no
    | .array pos items => do
      let vs ← items.mapM (eval fuel fr)
      grow pos vs.length
      return .array .any vs
    | .map pos pairs => do
      let kvs ← pairs.mapM fun (k, v) => do
        let kv ← eval fuel fr k
        let vv ← eval fuel fr v
        return (kv, vv)
      grow pos kvs.length
      -- the pairs are stored last first: a key that is no string fails there, and of equal
      -- keys the first pair's value stays
      for (k, _) in kvs.reverse do
        match k with
        | .str _ => pure ()
        | other => failAt pos (other.conversionFailure "string")
      return .map .string .any (Value.entriesOf kvs.reverse)
    | .chain _ e =>
      tryCatch (eval fuel fr e) fun stop =>
        match stop with
        | .nilChain => pure .nil
        | other => throw other
    | .letIn _ name value body => do
      let v ← eval fuel fr value
      eval fuel { fr with lets := (name, v) :: fr.lets } body
    | .seq _ items => do
      let vs ← items.mapM (eval fuel fr)
      return vs.getLastD .nil
    | .constArray _ items => return .array .any (← items.mapM (eval fuel fr))
    | .keySet _ ints keys => do
      let ks ← keys.mapM (eval fuel fr)
      return .map (if ints then .int else .string) .bool
        (Value.entriesOf (ks.map fun k => (k, .bool true)))
    | .select pos coll pred project => do
      let xs ← lift pos (← eval fuel fr coll).elements
      let hits ← selectMap fuel fr pos (bodyOf pred) project xs.zipIdx
      grow pos hits.length
      return .array .any hits
    | .pick pos fromEnd orFail coll pred project => do
      let xs ← lift pos (← eval fuel fr coll).elements
      let order := if fromEnd then xs.zipIdx.reverse else xs.zipIdx
      match ← search fuel fr pos (bodyOf pred) true order with
      | some (x, i) =>
        match project with
        | some body => runBody fuel fr body x i .nil
        | none => return x
      | none => if orFail then failAt pos "reflect: slice index out of range" else return .nil
    | .countTo pos coll pred limit => do
      let xs ← lift pos (← eval fuel fr coll).elements
      return .int (← countUpTo fuel fr pos (bodyOf pred) limit xs.zipIdx)

def access : Nat → Frame → Nat → Node → Node → Bool → EvalM Value
  | 0, _, pos, _, _, _ => failAt pos "expression too deeply nested"
  | fuel + 1, fr, pos, base, prop, optional => do
    let b ← eval fuel fr base
    if optional && b.isNil then throw .nilChain
    let p ← eval fuel fr prop
    lift pos (Value.fetch b p)

def runBody : Nat → Frame → Node → Value → Nat → Value → EvalM Value
  | 0, _, body, _, _, _ => failAt body.pos "expression too deeply nested"
  | fuel + 1, fr, body, x, i, acc => eval fuel { fr with loops := ⟨x, i, acc⟩ :: fr.loops } body

/-- The first element (in the given order) whose predicate is `target`, with its position;
every result is asserted to be a boolean at `pos`. -/
def search : Nat → Frame → Nat → Node → Bool → List (Value × Nat) → EvalM (Option (Value × Nat))
  | 0, _, _, _, _, _ => return none
  | fuel + 1, fr, pos, body, target, xs => do
    for (x, i) in xs do
      let v ← runBody fuel fr body x i .nil
      if (← lift pos v.asBool) == target then return some (x, i)
    return none

def select : Nat → Frame → Nat → Node → List (Value × Nat) → EvalM (List Value)
  | 0, _, _, _, _ => return []
  | fuel + 1, fr, pos, body, xs => do
    let mut out : Array Value := #[]
    for (x, i) in xs do
      let v ← runBody fuel fr body x i .nil
      if ← lift pos v.asBool then out := out.push x
    return out.toList

def selectMap : Nat → Frame → Nat → Node → Node → List (Value × Nat) → EvalM (List Value)
  | 0, _, _, _, _, _ => return []
  | fuel + 1, fr, pos, body, project, xs => do
    let mut out : Array Value := #[]
    for (x, i) in xs do
      let v ← runBody fuel fr body x i .nil
      if ← lift pos v.asBool then out := out.push (← runBody fuel fr project x i .nil)
    return out.toList

def countUpTo : Nat → Frame → Nat → Node → Nat → List (Value × Nat) → EvalM Nat
  | 0, _, _, _, _, _ => return 0
  | fuel + 1, fr, pos, body, limit, xs => do
    let mut found := 0
    for (x, i) in xs do
      if found ≥ limit then break
      let v ← runBody fuel fr body x i .nil
      if ← lift pos v.asBool then found := found + 1
    return found

def builtin : Nat → Frame → Nat → String → List Node → EvalM Value
  | 0, _, pos, _, _ => failAt pos "expression too deeply nested"
  | fuel + 1, fr, pos, name, args => do
    let arg (i : Nat) : Node := args.getD i (.nil pos)
    let collection : EvalM (List (Value × Nat)) := do
      let v ← eval fuel fr (arg 0)
      let xs ← lift pos v.elements
      return xs.zipIdx
    match name with
    | "all" => do
      let hit ← search fuel fr pos (bodyOf (arg 1)) false (← collection)
      return .bool hit.isNone
    | "any" => do
      let hit ← search fuel fr pos (bodyOf (arg 1)) true (← collection)
      return .bool hit.isSome
    | "none" => do
      let hit ← search fuel fr pos (bodyOf (arg 1)) true (← collection)
      return .bool hit.isNone
    | "one" => do
      let hits ← select fuel fr pos (bodyOf (arg 1)) (← collection)
      return .bool (hits.length == 1)
    | "filter" => do
      let hits ← select fuel fr pos (bodyOf (arg 1)) (← collection)
      grow pos hits.length
      return .array .any hits
    | "map" => do
      let vs ← (← collection).mapM fun (x, i) => runBody fuel fr (bodyOf (arg 1)) x i .nil
      grow pos vs.length
      return .array .any vs
    | "find" => do
      let hit ← search fuel fr pos (bodyOf (arg 1)) true (← collection)
      return (hit.map (·.1)).getD .nil
    | "findIndex" => do
      let hit ← search fuel fr pos (bodyOf (arg 1)) true (← collection)
      return .int (match hit with
        | some (_, i) => i
        | none => -1)
    | "findLast" => do
      let hit ← search fuel fr pos (bodyOf (arg 1)) true (← collection).reverse
      return (hit.map (·.1)).getD .nil
    | "findLastIndex" => do
      let hit ← search fuel fr pos (bodyOf (arg 1)) true (← collection).reverse
      return .int (match hit with
        | some (_, i) => i
        | none => -1)
    | "count" => do
      let body := if args.length == 2 then bodyOf (arg 1) else .pointer pos ""
      let hits ← select fuel fr pos body (← collection)
      return .int hits.length
    | "sum" => do
      let mut acc : Value := .int 0
      for (x, i) in ← collection do
        let v ← if args.length == 2 then runBody fuel fr (bodyOf (arg 1)) x i .nil else pure x
        acc ← lift pos (Value.add v acc)
      return acc
    | "reduce" => do
      let xs ← collection
      let (start, rest) ← if args.length == 3 then do
          let init ← eval fuel fr (arg 2)
          pure (init, xs)
        else
          match xs with
          | (x, _) :: rest => pure (x, rest)
          | [] => failAt pos "reduce of empty array with no initial value"
      let mut acc := start
      for (x, i) in rest do
        acc ← runBody fuel fr (bodyOf (arg 1)) x i acc
      return acc
    | "groupBy" => do
      let mut keyed : Array (Value × Value) := #[]
      for (x, i) in ← collection do
        let k ← runBody fuel fr (bodyOf (arg 1)) x i .nil
        match k with
        | .array _ _ | .map _ _ _ =>
          failAt pos ("runtime error: hash of unhashable type " ++ k.typeName)
        | _ => keyed := keyed.push (k, x)
      return .map .any (Ty.list)
        ((Value.groupEntries keyed.toList).map fun (k, xs) => (k, .array .any xs))
    | "sortBy" => do
      let xs ← collection
      let order ← if args.length == 3 then eval fuel fr (arg 2) else pure (Value.ofString "asc")
      let keyed ← xs.mapM fun (x, i) => do
        let k ← runBody fuel fr (bodyOf (arg 1)) x i .nil
        return (k, x)
      let o ← lift pos order.asStr
      let desc ← if o == Bytes.ofString "asc" then pure false
        else if o == Bytes.ofString "desc" then pure true
        else failAt pos "unknown order, use asc or desc"
      let sorted ← lift pos (Sorting.sort (fun a b => Builtin.before desc a.1 b.1) keyed.toArray)
      return .array .any (sorted.toList.map (·.2))
    | _ => do
      let vs ← args.mapM (eval fuel fr)
      let (v, mem) ← lift pos (Builtin.apply name vs)
      if mem > 0 then grow pos mem
      return v

end

end Eval

/-- Evaluates a checked tree on variables, within `fuel` levels of nesting. -/
def Node.eval (fuel : Nat) (vars : List (String × Value)) (node : Node) : Except Located Value :=
  match (Eval.eval fuel { globals := vars } node).run 0 with
  | .ok (v, _) => .ok v
  | .error (.fail e) => .error e
  | .error .nilChain => .ok .nil

end Expr

end ProcessTitle
