import ProcessTitle.Expr.Syntax
import ProcessTitle.Expr.Ty
import ProcessTitle.Expr.Methods
import ProcessTitle.Text.Utf8
import ProcessTitle.Text.Pattern

/-!
The checker of title expressions: one walk computing each node's type, keeping the first error.
-/

namespace ProcessTitle

namespace Expr

/-- A signature of a built-in function: parameter types, the type of further arguments if it
takes any number, and the result type. -/
structure Signature where
  params : List Ty
  rest : Option Ty := none
  result : Ty

/-- What the checker knows at a position: the environment's variables, the `let` variables in
scope (innermost first), and for each enclosing predicate the type of its collection and its
loop variables. -/
structure Scope where
  globals : List (String × Ty)
  locals : List (String × Ty) := []
  loops : List (Ty × List (String × Ty)) := []

/-- What checking records: the first error, and the positions of the integer operands on the
left of an `in`. -/
structure CheckState where
  first : Option Located := none
  intLookups : List Nat := []

abbrev CheckM := StateM CheckState

namespace Typing

def report (pos : Nat) (msg : String) : CheckM Ty := do
  modify fun st => match st.first with
    | some _ => st
    | none => { st with first := some (Located.ofString pos msg) }
  return .unknown

def reportLocated (e : Located) : CheckM Unit :=
  modify fun st => match st.first with
    | some _ => st
    | none => { st with first := some e }

def noteIntLookup (pos : Nat) : CheckM Unit :=
  modify fun st => { st with intLookups := pos :: st.intLookups }

def signatures : String → List Signature
  | "type" | "string" => [⟨[.any], none, .string⟩]
  | "trim" => [⟨[.string], none, .string⟩, ⟨[.string, .string], none, .string⟩]
  | "trimPrefix" | "trimSuffix" => [⟨[.string, .string], none, .string⟩, ⟨[.string], none, .string⟩]
  | "upper" | "lower" => [⟨[.string], none, .string⟩]
  | "split" | "splitAfter" =>
    [⟨[.string, .string], none, .arrayOf .string⟩, ⟨[.string, .string, .int], none, .arrayOf .string⟩]
  | "replace" =>
    [⟨[.string, .string, .string, .int], none, .string⟩, ⟨[.string, .string, .string], none, .string⟩]
  | "repeat" => [⟨[.string, .int], none, .string⟩]
  | "join" =>
    [⟨[.arrayOf .string, .string], none, .string⟩, ⟨[.list, .string], none, .string⟩,
     ⟨[.list], none, .string⟩, ⟨[.arrayOf .string, .string], none, .string⟩,
     ⟨[.arrayOf .string], none, .string⟩]
  | "indexOf" | "lastIndexOf" => [⟨[.string, .string], none, .int⟩]
  | "hasPrefix" | "hasSuffix" => [⟨[.string, .string], none, .bool⟩]
  | "toJSON" => [⟨[.any], none, .string⟩]
  | "fromJSON" => [⟨[.string], none, .any⟩]
  | "toBase64" | "fromBase64" => [⟨[.string], none, .string⟩]
  | "duration" => [⟨[.string], none, .duration⟩]
  | "now" => [⟨[], none, .unknown⟩]
  | "date" => [⟨[.any], some .any, .unknown⟩]
  | "timezone" => [⟨[.string], none, .unknown⟩]
  | "bitnot" => [⟨[.int], none, .int⟩]
  | "bitand" | "bitor" | "bitxor" | "bitnand" | "bitshl" | "bitshr" | "bitushr" =>
    [⟨[.int, .int], none, .int⟩]
  | _ => []

def isListLike (t : Ty) : Bool := t.isUnknown || t.isArray

/-- The result of an aggregate (`max`, `min`, `mean`, `median`) over arguments of the given
types: a list or an unknown argument makes it unknown (a float for means), a non-number is
refused. -/
def aggregateType (name : String) (result : Ty) : List Ty → Except String Ty
  | [] => .ok result
  | t :: ts =>
    if t.isUnknown || t.isArray then .ok (if name == "max" || name == "min" then .unknown else .float)
    else if t.isNumber then aggregateType name result ts
    else .error ("invalid argument for " ++ name ++ " (type " ++
      (if t == .unknown then "interface \x7b\x7d" else t.name) ++ ")")

def validate (name : String) (args : List Ty) : Except String Ty :=
  let arity (n : Nat) : Except String Unit :=
    if args.length != n then
      .error ("invalid number of arguments (expected " ++ toString n ++ ", got " ++
        toString args.length ++ ")")
    else .ok ()
  let first := args.headD .unknown
  let argName (t : Ty) : String :=
    if t == .unknown then "interface \x7b\x7d" else if t == .nil then "%!s(<nil>)" else t.name
  let numeric (t : Ty) : Bool := t.isNumber || t.isUnknown
  match name with
  | "len" => do
    arity 1
    if first.isUnknown || first.isArray || first.isMap || first.isString then .ok .int
    else .error ("invalid argument for len (type " ++ argName first ++ ")")
  | "abs" => do
    arity 1
    if numeric first then .ok first
    else .error ("invalid argument for abs (type " ++ argName first ++ ")")
  | "ceil" | "floor" | "round" => do
    arity 1
    if numeric first then .ok .float
    else .error ("invalid argument for " ++ name ++ " (type " ++ argName first ++ ")")
  | "int" | "float" => do
    arity 1
    if numeric first || first.isString || first.isDuration then .ok (if name == "int" then .int else .float)
    else .error ("invalid argument for " ++ name ++ " (type " ++ argName first ++ ")")
  | "max" | "min" | "mean" | "median" =>
    if args.isEmpty then .error ("not enough arguments to call " ++ name)
    else aggregateType name (if name == "max" || name == "min" then first else .float) args
  | "first" | "last" => do
    arity 1
    if first.isUnknown then .ok .unknown
    else if first.isArray then .ok first.elem
    else .error ("cannot get " ++ name ++ " element from " ++ argName first)
  | "take" => do
    arity 2
    let second := args.getD 1 .unknown
    if !isListLike first then .error ("cannot take from " ++ argName first)
    else if !(second.isInteger || second.isUnknown) then .error ("cannot take " ++ argName second ++ " elements")
    else .ok first
  | "keys" | "values" => do
    arity 1
    if first.isUnknown || first.isMap then .ok .list
    else .error ("cannot get " ++ name ++ " from " ++ argName first)
  | "toPairs" => do
    arity 1
    if first.isUnknown || first.isMap then .ok .list
    else .error ("cannot transform " ++ argName first ++ " to pairs")
  | "fromPairs" => do
    arity 1
    if isListLike first then .ok (.map .any .any)
    else .error ("cannot transform " ++ argName first ++ " from pairs")
  | "sort" =>
    if args.length != 1 && args.length != 2 then
      .error ("invalid number of arguments (expected 1 or 2, got " ++ toString args.length ++ ")")
    else if !isListLike first then .error ("cannot sort " ++ argName first)
    else
      let second := args.getD 1 .string
      if second.isString || second.isUnknown then .ok .list
      else .error ("invalid argument for sort (expected string, got " ++ argName second ++ ")")
  | "reverse" | "uniq" | "flatten" => do
    arity 1
    if isListLike first then .ok .list
    else .error ("cannot " ++ name ++ " " ++ argName first)
  | "concat" =>
    if args.isEmpty then .error "invalid number of arguments (expected at least 1, got 0)"
    else match args.find? (fun t => !isListLike t) with
      | some t => .error ("cannot concat " ++ argName t)
      | none => .ok .list
  | _ => .ok .unknown

def isValidated (name : String) : Bool :=
  ["len", "abs", "ceil", "floor", "round", "int", "float", "max", "min", "mean", "median",
   "first", "last", "take", "keys", "values", "toPairs", "fromPairs", "sort", "reverse", "uniq",
   "flatten", "concat"].contains name

def envName : String := "$env"

def envType : Ty := .map .string .any

def isBuiltinName (name : String) : Bool := Catalog.isFunction name

mutual

def check : Nat → Scope → Node → CheckM Ty
  | 0, _, n => report n.pos "expression too deeply nested"
  | fuel + 1, sc, node =>
    match node with
    | .nil _ => return .nil
    | .bool _ _ => return .bool
    | .int _ _ => return .int
    | .float _ _ => return .float
    | .str _ _ => return .string
    | .bytes _ _ => return Ty.arrayOf .byte
    | .ident pos name =>
      match sc.locals.lookup name with
      | some t => return t
      | none =>
        match sc.globals.lookup name with
        | some t => return t
        | none =>
          if Catalog.isFunction name then return .func name
          else if name == envName then return envType
          else report pos ("unknown name " ++ name)
    | .pointer pos name =>
      match sc.loops with
      | [] => report pos "cannot use pointer accessor outside predicate"
      | (coll, vars) :: _ =>
        if name.isEmpty then
          if coll.isUnknown then return .unknown
          else if coll.isArray then return coll.elem
          else report pos ("cannot use " ++ coll.name ++ " as array")
        else match vars.lookup name with
          | some t => return t
          | none => report pos ("unknown pointer #" ++ name)
    | .unary pos op e => do
      let t ← check fuel sc e
      if op == "!" || op == "not" then
        if t.isBool || t.isUnknown then return .bool
        else report pos ("invalid operation: " ++ op ++ " (mismatched type " ++ t.name ++ ")")
      else
        if t.isNumber then return t
        else if t.isUnknown then return .unknown
        else report pos ("invalid operation: " ++ op ++ " (mismatched type " ++ t.name ++ ")")
    | .binary pos op l r => do
      let lt ← check fuel sc l
      let rt ← check fuel sc r
      if op == "in" && lt == .int then noteIntLookup l.pos
      match op, r with
      | "matches", .str _ p =>
        match Pattern.compile p with
        | .error msg => report pos msg
        | .ok _ => binaryType pos op lt rt
      | _, _ => binaryType pos op lt rt
    | .member pos base prop optional =>
      match base, prop with
      | .ident _ n, .str _ key =>
        if n == envName && (sc.locals.lookup n).isNone then
          -- a field of the environment is one of its variables
          let name := String.ofList ((Utf8.decode key).map Utf8Piece.shown)
          match sc.globals.lookup name with
          | some t => return t
          | none => if optional then return .unknown else report pos ("unknown name " ++ name)
        else do
          let bt ← check fuel sc base
          let pt ← check fuel sc prop
          memberType pos bt prop pt false
      | _, _ => do
        let bt ← check fuel sc base
        let pt ← check fuel sc prop
        memberType pos bt prop pt false
    | .slice pos base lo hi => do
      let t ← check fuel sc base
      if !(t.isUnknown || t.isString || t.isArray) then report pos ("cannot slice " ++ t.name)
      else
        let bad ← sliceBound fuel sc lo
        match bad with
        | true => return .unknown
        | false =>
          let bad' ← sliceBound fuel sc hi
          if bad' then return .unknown else return t
    | .call pos callee args => do
      let fnName := match callee with
        | .ident _ n => n
        | .member _ _ (.str _ s) _ => String.ofList ((Utf8.decode s).map Utf8Piece.shown)
        | _ => "function"
      let called (ct : Ty) : CheckM Ty :=
        if ct.isUnknown then return .unknown
        else if ct.isNil then report pos (fnName ++ " is nil; cannot call nil as function")
        else match ct with
          | .func name => builtinCall fuel sc pos name args
          | _ => report pos (ct.name ++ " is not callable")
      match callee with
      | .member mpos base prop _ => do
        let bt ← check fuel sc base
        let pt ← check fuel sc prop
        match bt, prop with
        | .duration, .str _ _ =>
          match DurationMethod.ofName? fnName with
          | some m => methodCall fuel sc pos m args
          | none => called (← memberType mpos bt prop pt true)
        | _, _ => called (← memberType mpos bt prop pt true)
      | other => called (← check fuel sc other)
    | .builtin pos name args => builtinCall fuel sc pos name args
    | .predicate _ body => check fuel sc body
    | .cond _ c yes no => do
      let ct ← check fuel sc c
      if !(ct.isBool || ct.isUnknown) then
        report c.pos ("non-bool expression (type " ++ ct.name ++ ") used as condition")
      else
        let t1 ← check fuel sc yes
        let t2 ← check fuel sc no
        if t1.isNil && !t2.isNil then return t2
        else if !t1.isNil && t2.isNil then return t1
        else if t1.isNil && t2.isNil then return .nil
        else if t1 != .unknown && t1.assignableTo t2 then return t1
        else return .unknown
    | .array _ items => do
      let ts ← checkAll fuel sc items
      match ts with
      | [] => return Ty.listOf .unknown
      | t :: rest => if rest.all (· == t) then return Ty.listOf t else return Ty.list
    | .map _ pairs => do
      let _ ← checkPairs fuel sc pairs
      return .map .string .any
    | .chain _ e => check fuel sc e
    | .letIn pos name value body => do
      if (sc.globals.lookup name).isSome then report pos ("cannot redeclare " ++ name)
      else if isBuiltinName name then report pos ("cannot redeclare builtin " ++ name)
      else if (sc.locals.lookup name).isSome then report pos ("cannot redeclare variable " ++ name)
      else
        let vt ← check fuel sc value
        check fuel { sc with locals := (name, vt) :: sc.locals } body
    | .seq _ items => do
      let ts ← checkAll fuel sc items
      return ts.getLastD .unknown
    | .constArray _ _ | .keySet _ _ _ | .select _ _ _ _ | .pick _ _ _ _ _ _ | .countTo _ _ _ _ =>
      return .unknown

def sliceBound : Nat → Scope → Option Node → CheckM Bool
  | 0, _, _ => return false
  | _ + 1, _, none => return false
  | fuel + 1, sc, some b => do
    let t ← check fuel sc b
    if t.isInteger || t.isUnknown then return false
    else
      let _ ← report b.pos ("non-integer slice index " ++ t.name)
      return true

def checkAll : Nat → Scope → List Node → CheckM (List Ty)
  | 0, _, _ => return []
  | _ + 1, _, [] => return []
  | fuel + 1, sc, n :: ns => do
    let t ← check fuel sc n
    let ts ← checkAll fuel sc ns
    return t :: ts

def checkPairs : Nat → Scope → List (Node × Node) → CheckM Unit
  | 0, _, _ => return ()
  | _ + 1, _, [] => return ()
  | fuel + 1, sc, (k, v) :: rest => do
    let _ ← check fuel sc k
    let _ ← check fuel sc v
    checkPairs fuel sc rest

/-- The type of the body of a predicate over a collection of type `coll`, with extra loop
variables. -/
def checkClosure : Nat → Scope → Ty → List (String × Ty) → Node → CheckM Ty
  | 0, _, _, _, _ => return .unknown
  | fuel + 1, sc, coll, vars, body =>
    check fuel { sc with loops := (coll, vars) :: sc.loops } body

/-- Checks arguments against a signature; the result type, or the refusal (the arguments that
were reached are checked too). -/
def checkSignature : Nat → Scope → Nat → String → Signature → List Node → CheckM (Except Located Ty)
  | 0, _, _, _, _, _ => return .ok .unknown
  | fuel + 1, sc, pos, name, sig, args => do
    let n := sig.params.length
    let arityError : Option String :=
      match sig.rest with
      | some _ => if args.length < n then some ("not enough arguments to call " ++ name) else none
      | none =>
        if args.length < n then some ("not enough arguments to call " ++ name)
        else if args.length > n then some ("too many arguments to call " ++ name)
        else none
    match arityError with
    | some msg => do
      let _ ← checkAll fuel sc args
      return .error (Located.ofString pos msg)
    | none => checkParams fuel sc name (sig.params ++ List.replicate (args.length - n) (sig.rest.getD .any)) args sig.result

def checkParams : Nat → Scope → String → List Ty → List Node → Ty → CheckM (Except Located Ty)
  | 0, _, _, _, _, r => return .ok r
  | _ + 1, _, _, _, [], r => return .ok r
  | _ + 1, _, _, [], _ :: _, r => return .ok r
  | fuel + 1, sc, name, p :: ps, a :: as, r => do
    let t ← check fuel sc a
    let fine :=
      (p == .float && t.isInteger) || (p.isInteger && t.isInteger) ||
      (t.isNil && p == .any) || t.assignableTo p || t.isUnknown
    if t.isNil && p != .any then
      return .error (Located.ofString a.pos ("cannot use nil as argument (type " ++ p.name ++ ") to call " ++ name))
    else if !fine then
      return .error (Located.ofString a.pos
        ("cannot use " ++ t.name ++ " as argument (type " ++ p.name ++ ") to call " ++ name ++ " "))
    else checkParams fuel sc name ps as r

/-- Tries the signatures in order; the first that accepts gives the type, otherwise the last
refusal is reported. -/
def trySignatures : Nat → Scope → Nat → String → List Signature → List Node → Option Located → CheckM Ty
  | 0, _, _, _, _, _, _ => return .unknown
  | _ + 1, _, _, _, [], _, last => do
    match last with
    | some e => reportLocated e
    | none => pure ()
    return .unknown
  | fuel + 1, sc, pos, name, s :: ss, args, _ => do
    match ← checkSignature fuel sc pos name s args with
    | .ok t => return t
    | .error e => trySignatures fuel sc pos name ss args (some e)

/-- The type of a call of a duration method: the arguments are checked first, then their
number, then each one's type against the method's. -/
def methodCall : Nat → Scope → Nat → DurationMethod → List Node → CheckM Ty
  | 0, _, _, _, _ => return .unknown
  | fuel + 1, sc, pos, m, args => do
    let ts ← checkAll fuel sc args
    if args.length > m.params.length then report pos ("too many arguments to call " ++ m.name)
    else if args.length < m.params.length then report pos ("not enough arguments to call " ++ m.name)
    else
      for (a, t, want) in args.zip (ts.zip m.params) do
        if t.isNil then
          let _ ← report a.pos ("cannot use nil as argument (type " ++ want.name ++ ") to call " ++ m.name)
        else if !(t.assignableTo want) && !t.isUnknown then
          let _ ← report a.pos ("cannot use " ++ t.name ++ " as argument (type " ++ want.name ++
            ") to call " ++ m.name ++ " ")
      return m.result

def builtinCall : Nat → Scope → Nat → String → List Node → CheckM Ty
  | 0, _, _, _, _ => return .unknown
  | fuel + 1, sc, pos, name, args => do
    let arg (i : Nat) : Node := args.getD i (.nil pos)
    let collectionOf : CheckM (Option Ty) := do
      let coll ← check fuel sc (arg 0)
      if coll.isArray || coll.isUnknown then return some coll
      else
        let _ ← report (arg 0).pos ("builtin " ++ name ++ " takes only array (got " ++ coll.name ++ ")")
        return none
    let closureOut (coll : Ty) (vars : List (String × Ty)) : CheckM (Option Ty) := do
      let t ← checkClosure fuel sc coll vars (arg 1)
      if t.isNil then return none else return some (if t == .unknown then .any else t)
    let noClosure : CheckM Ty := report (arg 1).pos "predicate should has one input and one output param"
    let boolClosure (result : Ty → Ty) : CheckM Ty := do
      match ← collectionOf with
      | none => return .unknown
      | some coll =>
        match ← closureOut coll [] with
        | none => noClosure
        | some out =>
          if out.isBool || out.isUnknown then return result coll
          else report (arg 1).pos ("predicate should return boolean (got " ++ out.name ++ ")")
    match name with
    | "all" | "none" | "any" | "one" => boolClosure fun _ => .bool
    | "filter" => boolClosure fun c => if c.isUnknown then Ty.list else Ty.listOf c.elem
    | "find" | "findLast" => boolClosure fun c => if c.isUnknown then .unknown else c.elem
    | "findIndex" | "findLastIndex" => boolClosure fun _ => .int
    | "count" =>
      if args.length == 1 then do
        match ← collectionOf with
        | none => return .unknown
        | some _ => return .int
      else boolClosure fun _ => .int
    | "map" => do
      match ← collectionOf with
      | none => return .unknown
      | some coll =>
        match ← closureOut coll [("index", .int)] with
        | none => noClosure
        | some out => return Ty.listOf out
    | "sum" => do
      match ← collectionOf with
      | none => return .unknown
      | some coll =>
        if args.length == 2 then
          match ← closureOut coll [] with
          | none => return .unknown
          | some out => return out
        else return (if coll.isUnknown then .unknown else coll.elem)
    | "groupBy" => do
      match ← collectionOf with
      | none => return .unknown
      | some coll =>
        match ← closureOut coll [] with
        | none => noClosure
        | some _ => return .map .any Ty.list
    | "sortBy" => do
      match ← collectionOf with
      | none => return .unknown
      | some coll =>
        let out ← closureOut coll []
        let order ← if args.length == 3 then check fuel sc (arg 2) else pure .string
        match out with
        | none => noClosure
        | some _ =>
          if order.isString || order.isUnknown then return coll
          else report (arg 2).pos ("sortBy order argument must be a string (got " ++ order.name ++ ")")
    | "reduce" => do
      match ← collectionOf with
      | none => return .unknown
      | some coll =>
        let out ← closureOut coll [("index", .int), ("acc", .unknown)]
        if args.length == 3 then
          let _ ← check fuel sc (arg 2)
        match out with
        | none => report (arg 1).pos "predicate should has two input and one output param"
        | some t => return (if t == .any then .unknown else t)
    | "get" =>
      if args.length != 2 then
        report pos ("invalid number of arguments (expected 2, got " ++ toString args.length ++ ")")
      else do
        let bt ← check fuel sc (arg 0)
        let pt ← check fuel sc (arg 1)
        if bt.isUnknown then return .unknown
        else if bt.isArray then
          if pt.isInteger || pt.isUnknown then return bt.elem
          else report (arg 1).pos ("non-integer slice index " ++ pt.name)
        else match bt with
          | .map k v =>
            if pt.assignableTo k || pt.isUnknown then return v
            else report (arg 1).pos ("cannot use " ++ pt.name ++ " to get an element from " ++ bt.name)
          | _ => report (arg 0).pos ("type " ++ bt.name ++ " does not support indexing")
    | _ =>
      if isValidated name then do
        let ts ← checkAll fuel sc args
        match validate name (ts.map fun t => if t == .unknown then .any else t) with
        | .ok t => return t
        | .error msg => report pos msg
      else trySignatures fuel sc pos name (signatures name) args none

def memberType (pos : Nat) (bt : Ty) (prop : Node) (pt : Ty) (method : Bool) : CheckM Ty :=
  let propName : Option String := match prop with
    | .str _ s => some (String.ofList ((Utf8.decode s).map Utf8Piece.shown))
    | _ => none
  if bt.isNil && propName.isSome then
    report pos ("type nil has no field " ++ propName.getD "")
  else match bt with
    | .unknown | .any => return .unknown
    | .map k v =>
      if pt != .unknown && !pt.assignableTo k && !pt.isUnknown then
        report prop.pos ("cannot use " ++ pt.name ++ " to get an element from " ++ bt.name)
      else return v
    | .array _ e =>
      if !pt.isInteger && !pt.isUnknown then
        report prop.pos ("array elements can only be selected using an integer (got " ++ pt.name ++ ")")
      else return e
    | _ =>
      match propName with
      | some n =>
        if method then report pos ("type " ++ bt.name ++ " has no method " ++ n)
        else report pos ("type " ++ bt.name ++ " has no field " ++ n)
      | none => report pos ("type " ++ bt.name ++ "[" ++ pt.name ++ "] is undefined")

def binaryType (pos : Nat) (op : String) (l r : Ty) : CheckM Ty :=
  let mismatch : CheckM Ty :=
    report pos ("invalid operation: " ++ op ++ " (mismatched types " ++ l.name ++ " and " ++ r.name ++ ")")
  let either (p : Ty → Bool) : Bool := Ty.eitherUnknown l r p
  match op with
  | "==" | "!=" => if Ty.comparable l r then return .bool else mismatch
  | "or" | "||" | "and" | "&&" =>
    if (l.isBool && r.isBool) || either Ty.isBool then return .bool else mismatch
  | "<" | ">" | ">=" | "<=" =>
    if (l.isNumber && r.isNumber) || (l.isString && r.isString) ||
        (l.isDuration && r.isDuration) ||
        either (fun t => t.isNumber || t.isString || t.isDuration) then return .bool
    else mismatch
  | "-" =>
    if l.isNumber && r.isNumber then return Ty.combined l r
    else if l.isDuration && r.isDuration then return .duration
    else if either (fun t => t.isNumber || t.isDuration) then return .unknown
    else mismatch
  | "*" =>
    if l.isNumber && r.isNumber then return Ty.combined l r
    else if (l.isNumber && r.isDuration) || (l.isDuration && r.isNumber) ||
        (l.isDuration && r.isDuration) then return .duration
    else if either (fun t => t.isNumber || t.isDuration) then return .unknown
    else mismatch
  | "/" | "**" | "^" =>
    if (l.isNumber && r.isNumber) || either Ty.isNumber then return .float else mismatch
  | "%" =>
    if (l.isInteger && r.isInteger) || either Ty.isInteger then return .int else mismatch
  | "+" =>
    if l.isNumber && r.isNumber then return Ty.combined l r
    else if l.isString && r.isString then return .string
    else if l.isDuration && r.isDuration then return .duration
    else if either (fun t => t.isNumber || t.isString || t.isDuration) then return .unknown
    else mismatch
  | "in" =>
    match r with
    | .map k _ =>
      if !l.isUnknown && !l.assignableTo k then
        report pos ("cannot use " ++ l.name ++ " as type " ++ k.name ++ " in map key")
      else return .bool
    | .array _ e =>
      if !Ty.comparable l e then
        report pos ("cannot use " ++ l.name ++ " as type " ++ e.name ++ " in array")
      else return .bool
    | _ => if r.isUnknown then return .bool else mismatch
  | "matches" | "contains" | "startsWith" | "endsWith" =>
    if (l.isString && r.isString) || either Ty.isString then return .bool else mismatch
  | ".." =>
    if (l.isInteger && r.isInteger) || either Ty.isInteger then return Ty.listOf .int else mismatch
  | "??" =>
    if l.isNil && !r.isNil then return r
    else if !l.isNil && r.isNil then return l
    else if l.isNil && r.isNil then return .nil
    else if r.assignableTo l then return l
    else return .unknown
  | _ => report pos ("unknown operator (" ++ op ++ ")")

end

end Typing

/-- Checks a tree against the environment's variable types: its type, or the first error.
The walk is bounded by `fuel` levels of nesting. -/
def Node.typeOf (fuel : Nat) (globals : List (String × Ty)) (node : Node) : Except Located Ty :=
  match (Typing.check fuel { globals := globals } node).run {} with
  | (_, { first := some e, .. }) => .error e
  | (t, { first := none, .. }) => .ok t

/-- The positions of the integer operands on the left of the `in` operations of a checked
tree. -/
def Node.intLookups (fuel : Nat) (globals : List (String × Ty)) (node : Node) : List Nat :=
  ((Typing.check fuel { globals := globals } node).run {}).2.intLookups

end Expr

end ProcessTitle
