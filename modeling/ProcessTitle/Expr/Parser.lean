import ProcessTitle.Expr.Token
import ProcessTitle.Expr.Syntax
import ProcessTitle.Decimal.Read

/-!
The parser of title expressions: precedence climbing over the token list, reporting the first
failure at the token where it arose.
-/

namespace ProcessTitle

namespace Expr

namespace Parser

/-- How tightly a binary operator binds, and whether it groups to the right. -/
def binaryInfo : String → Option (Nat × Bool)
  | "|" => some (0, false)
  | "or" | "||" => some (10, false)
  | "and" | "&&" => some (15, false)
  | "==" | "!=" | "<" | ">" | ">=" | "<=" | "in" | "matches" | "contains" | "startsWith"
  | "endsWith" => some (20, false)
  | ".." => some (25, false)
  | "+" | "-" => some (30, false)
  | "*" | "/" | "%" => some (60, false)
  | "**" | "^" => some (100, true)
  | "??" => some (500, false)
  | _ => none

def unaryInfo : String → Option Nat
  | "not" | "!" => some 50
  | "-" | "+" => some 90
  | _ => none

def isComparison (op : String) : Bool := op == "<" || op == ">" || op == ">=" || op == "<="

def negatable (op : String) : Bool :=
  op == "in" || op == "matches" || op == "contains" || op == "startsWith" || op == "endsWith"

/-- Whether a word may name a field: a letter, `_` or `$`, then letters and digits. -/
def isValidName (s : String) : Bool :=
  match s.toList with
  | c :: cs => (c.isAlpha || c == '_' || c == '$' || c.toNat ≥ 128) && cs.all Lexer.isNameChar
  | [] => false

/-- The parser's state: the tokens, the index of the current one, how many predicates
enclose the current position, and how many nodes were made so far. -/
structure State where
  toks : Array Lexeme
  idx : Nat
  depth : Nat
  nodes : Nat := 0

def maxNodes : Nat := 10000

abbrev ParseM := StateT State (Except Located)

def current : ParseM Lexeme := do
  let s ← get
  return s.toks.getD s.idx ⟨.eof, 0⟩

def failAt {α : Type} (l : Lexeme) (msg : Bytes) : ParseM α := throw ⟨msg, l.pos⟩

def failHere {α : Type} (msg : String) : ParseM α := do
  failAt (← current) (Bytes.ofString msg)

def unexpected {α : Type} : ParseM α := do
  let l ← current
  failAt l (Bytes.ofString "unexpected token " ++ l.token.describe)

/-- Counts a node that was made; past `maxNodes` nodes, fails at the current token. -/
def made (n : Node) : ParseM Node := do
  let s ← get
  set { s with nodes := s.nodes + 1 }
  if s.nodes + 1 > maxNodes then
    failHere "compilation failed: expression exceeds maximum allowed nodes"
  return n

def advance : ParseM Unit := do
  let s ← get
  if s.idx + 1 ≥ s.toks.size then failHere "unexpected end of expression"
  else set { s with idx := s.idx + 1 }

def expect (t : Token) : ParseM Unit := do
  if (← current).token == t then advance else unexpected

def expectIdent : ParseM String := do
  match (← current).token with
  | .ident n => advance; return n
  | _ => unexpected

/-- The node of a numeral at offset `pos`: integers in the 64-bit signed range, floats when
there is a fraction or an exponent; otherwise the reason it is malformed. -/
def numeral (pos : Nat) (text : String) : Except String Node :=
  let value := String.ofList (text.toList.filter (· != '_'))
  let lower := value.toLower
  let quoted := Utf8.toText (Quoted.quote (Bytes.ofString value))
  let intLit (kind : String) (base : Nat) : Except String Node :=
    match Decimal.readInt base value with
    | .ok n => .ok (.int pos n)
    | .error e =>
      .error ("invalid " ++ kind ++ " literal: strconv.ParseInt: parsing " ++ quoted ++ ": " ++ e.text)
  if lower.startsWith "0x" then intLit "hex" 0
  else if lower.any (fun c => c == '.' || c == 'e') then
    match Decimal.readFloat value with
    | .ok x => .ok (.float pos x)
    | .error e => .error ("invalid float literal: strconv.ParseFloat: parsing " ++ quoted ++ ": " ++ e.text)
  else if lower.startsWith "0b" then intLit "binary" 0
  else if lower.startsWith "0o" then intLit "octal" 0
  else intLit "integer" 10

mutual

def sequence : Nat → ParseM Node
  | 0 => failHere "expression too deeply nested"
  | fuel + 1 => do
    let start ← current
    let first ← expression fuel 0
    let rest ← sequenceRest fuel
    if rest.isEmpty then return first else made (.seq start.pos (first :: rest))

def sequenceRest : Nat → ParseM (List Node)
  | 0 => failHere "expression too deeply nested"
  | fuel + 1 => do
    if (← current).token.isOp ";" then
      advance
      if (← current).token == .eof then return []
      let e ← expression fuel 0
      let rest ← sequenceRest fuel
      return e :: rest
    else return []

def expression : Nat → Nat → ParseM Node
  | 0, _ => failHere "expression too deeply nested"
  | fuel + 1, prec => do
    let t ← current
    if prec == 0 && t.token.isOp "let" then letBinding fuel
    else if prec == 0 && t.token.isOp "if" then ifElse fuel
    else
      let left ← primary fuel
      let node ← operators fuel prec left ""
      if prec == 0 then conditional fuel node else return node

def operators : Nat → Nat → Node → String → ParseM Node
  | 0, _, _, _ => failHere "expression too deeply nested"
  | fuel + 1, prec, left, prev => do
    let opTok ← current
    match opTok.token with
    | .op o =>
      -- `not` before a negatable operator negates it
      let negated : Option (Lexeme × String) ← do
        if o == "not" then
          let saved ← get
          advance
          let next ← current
          match next.token with
          | .op o' =>
            if negatable o' then
              match binaryInfo o' with
              | some (p, _) =>
                if p ≥ prec then pure (some (next, o'))
                else do set saved; pure none
              | none => do set saved; pure none
            else unexpected
          | _ => unexpected
        else pure (some (opTok, o))
      match negated with
      | none => return left
      | some (tok, op) =>
        match binaryInfo op with
        | none => return left
        | some (p, rightAssoc) =>
          if p < prec then return left
          else
            advance
            if op == "|" then
              let nameTok ← current
              let name ← expectIdent
              let node ← call fuel nameTok name [left]
              operators fuel prec node op
            else if prev == "??" && op != "??" then
              failAt tok (Bytes.ofString ("Operator (" ++ op ++
                ") and coalesce expressions (??) cannot be mixed. Wrap either by parentheses."))
            else if isComparison op then
              let node ← comparison fuel left tok op p
              operators fuel prec node op
            else
              let right ← expression fuel (if rightAssoc then p else p + 1)
              let node ← made (.binary tok.pos op left right)
              let node ← if o == "not" then made (Node.unary tok.pos "not" node) else pure node
              operators fuel prec node op
    | _ => return left

def comparison : Nat → Node → Lexeme → String → Nat → ParseM Node
  | 0, _, _, _, _ => failHere "expression too deeply nested"
  | fuel + 1, left, tok, op, p => do
    let right ← expression fuel (p + 1)
    let cmp ← made (.binary tok.pos op left right)
    comparisonRest fuel cmp right p

def comparisonRest : Nat → Node → Node → Nat → ParseM Node
  | 0, _, _, _ => failHere "expression too deeply nested"
  | fuel + 1, acc, last, p => do
    let t ← current
    match t.token with
    | .op o =>
      if isComparison o then
        advance
        let right ← expression fuel (p + 1)
        let cmp ← made (.binary t.pos o last right)
        let joined ← made (.binary t.pos "&&" acc cmp)
        comparisonRest fuel joined right p
      else return acc
    | _ => return acc

def conditional : Nat → Node → ParseM Node
  | 0, _ => failHere "expression too deeply nested"
  | fuel + 1, node => do
    if (← current).token.isOp "?" then
      advance
      if (← current).token.isOp ":" then
        advance
        let no ← expression fuel 0
        conditional fuel (← made (.cond 0 node node no))
      else
        let yes ← expression fuel 0
        expect (.op ":")
        let no ← expression fuel 0
        conditional fuel (← made (.cond 0 node yes no))
    else return node

def letBinding : Nat → ParseM Node
  | 0 => failHere "expression too deeply nested"
  | fuel + 1 => do
    expect (.op "let")
    let name ← expectIdent
    expect (.op "=")
    let value ← expression fuel 0
    expect (.op ";")
    let body ← sequence fuel
    made (.letIn 0 name value body)

def ifElse : Nat → ParseM Node
  | 0 => failHere "expression too deeply nested"
  | fuel + 1 => do
    advance
    let c ← expression fuel 0
    expect (.bracket "\x7b")
    let yes ← sequence fuel
    expect (.bracket "\x7d")
    expect (.op "else")
    let no ← do
      if (← current).token.isOp "if" then ifElse fuel
      else
        expect (.bracket "\x7b")
        let no ← sequence fuel
        expect (.bracket "\x7d")
        pure no
    made (.cond 0 c yes no)

def primary : Nat → ParseM Node
  | 0 => failHere "expression too deeply nested"
  | fuel + 1 => do
    let t ← current
    match t.token with
    | .op o =>
      match unaryInfo o with
      | some p =>
        advance
        let e ← expression fuel p
        accesses fuel (← made (.unary t.pos o e))
      | none =>
        if (o == "#" || o == ".") && (← get).depth > 0 then
          let name ← do
            if o == "#" then
              advance
              match (← current).token with
              | .ident n => advance; pure n
              | _ => pure ""
            else pure ""
          accesses fuel (← made (.pointer t.pos name))
        else secondary fuel
    | .bracket "(" =>
      advance
      let e ← sequence fuel
      expect (.bracket ")")
      accesses fuel e
    | _ => secondary fuel

def secondary : Nat → ParseM Node
  | 0 => failHere "expression too deeply nested"
  | fuel + 1 => do
    let t ← current
    match t.token with
    | .ident "true" => advance; made (.bool t.pos true)
    | .ident "false" => advance; made (.bool t.pos false)
    | .ident "nil" => advance; made (.nil t.pos)
    | .ident n =>
      advance
      if (← current).token.isBracket "(" then
        let node ← call fuel t n []
        accesses fuel node
      else accesses fuel (← made (.ident t.pos n))
    | .number text =>
      advance
      -- a malformed numeral is reported at the token after it
      match numeral t.pos text with
      | .ok node => accesses fuel (← made node)
      | .error msg => failHere msg
    | .str s =>
      advance
      accesses fuel (← made (.str t.pos s))
    | .bytes s =>
      advance
      accesses fuel (← made (.bytes t.pos s))
    | .bracket "[" =>
      let node ← arrayLit fuel t
      accesses fuel node
    | .bracket "\x7b" =>
      let node ← mapLit fuel t
      accesses fuel node
    | _ => unexpected

def call : Nat → Lexeme → String → List Node → ParseM Node
  | 0, _, _, _ => failHere "expression too deeply nested"
  | fuel + 1, nameTok, name, given => do
    match Catalog.predicateShapes name with
    | some shapes =>
      expect (.bracket "(")
      let args ← shapedArgs fuel (shapes.drop given.length) (shapes.length - given.length) 0
      if (← current).token.isOp "," then advance
      expect (.bracket ")")
      made (.builtin nameTok.pos name (given ++ args))
    | none =>
      let args ← arguments fuel given
      if Catalog.isFunction name then made (.builtin nameTok.pos name args)
      else
        let callee ← made (.ident nameTok.pos name)
        made (.call nameTok.pos callee args)

/-- The arguments of a collection function by their shapes; `total` is how many are asked
for and `i` how many were read. -/
def shapedArgs : Nat → List Catalog.ArgShape → Nat → Nat → ParseM (List Node)
  | 0, _, _, _ => failHere "expression too deeply nested"
  | _ + 1, [], _, _ => return []
  | fuel + 1, shape :: shapes, total, i => do
    let closing := (← current).token.isBracket ")"
    let optional := shape == .optionalExpr || shape == .optionalPredicate
    if optional && closing then return []
    if closing then failHere ("expected at least " ++ toString total ++ " arguments")
    if i > 0 then expect (.op ",")
    let node ← do
      if shape == .expr || shape == .optionalExpr then expression fuel 0 else predicate fuel
    let rest ← shapedArgs fuel shapes total (i + 1)
    return node :: rest

def predicate : Nat → ParseM Node
  | 0 => failHere "expression too deeply nested"
  | fuel + 1 => do
    let start ← current
    let braced := start.token.isBracket "\x7b"
    if braced then advance
    modify fun s => { s with depth := s.depth + 1 }
    let body ← do
      if braced then sequence fuel
      else
        let e ← expression fuel 0
        if (← current).token.isOp ";" then failHere "wrap predicate with brackets \x7b and \x7d"
        pure e
    modify fun s => { s with depth := s.depth - 1 }
    if braced then expect (.bracket "\x7d")
    made (.predicate start.pos body)

def arguments : Nat → List Node → ParseM (List Node)
  | 0, _ => failHere "expression too deeply nested"
  | fuel + 1, given => do
    expect (.bracket "(")
    let args ← argumentList fuel given.length given
    expect (.bracket ")")
    return args

def argumentList : Nat → Nat → List Node → ParseM (List Node)
  | 0, _, _ => failHere "expression too deeply nested"
  | fuel + 1, offset, acc => do
    if (← current).token.isBracket ")" then return acc
    if acc.length > offset then expect (.op ",")
    if (← current).token.isBracket ")" then return acc
    let e ← expression fuel 0
    argumentList fuel offset (acc ++ [e])

def arrayLit : Nat → Lexeme → ParseM Node
  | 0, _ => failHere "expression too deeply nested"
  | fuel + 1, t => do
    expect (.bracket "[")
    let items ← arrayItems fuel []
    expect (.bracket "]")
    made (.array t.pos items)

def arrayItems : Nat → List Node → ParseM (List Node)
  | 0, _ => failHere "expression too deeply nested"
  | fuel + 1, acc => do
    if (← current).token.isBracket "]" then return acc
    if !acc.isEmpty then
      expect (.op ",")
      if (← current).token.isBracket "]" then return acc
    let e ← expression fuel 0
    arrayItems fuel (acc ++ [e])

def mapLit : Nat → Lexeme → ParseM Node
  | 0, _ => failHere "expression too deeply nested"
  | fuel + 1, t => do
    expect (.bracket "\x7b")
    let pairs ← mapPairs fuel t []
    expect (.bracket "\x7d")
    made (.map t.pos pairs)

/-- The pairs of a map literal up to `}`, allowing a trailing comma. A key is a string, a
number or a name (all taken as strings), or an expression in parentheses. -/
def mapPairs : Nat → Lexeme → List (Node × Node) → ParseM (List (Node × Node))
  | 0, _, _ => failHere "expression too deeply nested"
  | fuel + 1, t, acc => do
    if (← current).token.isBracket "\x7d" then return acc
    if !acc.isEmpty then
      expect (.op ",")
      if (← current).token.isBracket "\x7d" then return acc
      if (← current).token.isOp "," then unexpected
    let k ← current
    let key ← do
      match k.token with
      | .number s => made (Node.str k.pos (Bytes.ofString s)) <* advance
      | .ident s => made (Node.str k.pos (Bytes.ofString s)) <* advance
      | .str s => made (Node.str k.pos s) <* advance
      | .bracket "(" => expression fuel 0
      | _ =>
        failAt k (Bytes.ofString ("a map key must be a quoted string, a number, a identifier, " ++
          "or an expression enclosed in parentheses (unexpected token ") ++ k.token.describe ++
          [41])
    expect (.op ":")
    let value ← expression fuel 0
    let _ ← made (.seq k.pos [key, value])
    mapPairs fuel t (acc ++ [(key, value)])

def accesses : Nat → Node → ParseM Node
  | 0, _ => failHere "expression too deeply nested"
  | fuel + 1, node => do
    let t ← current
    match t.token with
    | .op "." => dotAccess fuel node false
    | .op "?." =>
      advance
      if (← current).token.isBracket "[" then
        let t' ← current
        indexAccess fuel node t' true
      else dotAccessAfter fuel node true
    | .bracket "[" => indexAccess fuel node t false
    | _ => return node

def dotAccess : Nat → Node → Bool → ParseM Node
  | 0, _, _ => failHere "expression too deeply nested"
  | fuel + 1, node, optional => do
    advance
    dotAccessAfter fuel node optional

def dotAccessAfter : Nat → Node → Bool → ParseM Node
  | 0, _, _ => failHere "expression too deeply nested"
  | fuel + 1, node, optional => do
    let prop ← current
    advance
    let name ← match prop.token with
      | .ident n => pure n
      | .op n => if isValidName n then pure n else failHere "expected name"
      | _ => failHere "expected name"
    let (base, wasChain) := match node with
      | .chain _ inner => (inner, true)
      | other => (other, false)
    let key ← made (.str prop.pos (Bytes.ofString name))
    let member ← made (.member prop.pos base key optional)
    let node' ← do
      if (← current).token.isBracket "(" then
        let args ← arguments fuel []
        made (Node.call prop.pos member args)
      else pure member
    let node' ← if wasChain || optional then made (Node.chain prop.pos node') else pure node'
    accesses fuel node'

def indexAccess : Nat → Node → Lexeme → Bool → ParseM Node
  | 0, _, _, _ => failHere "expression too deeply nested"
  | fuel + 1, node, t, optional => do
    advance
    if (← current).token.isOp ":" then
      advance
      let hi ← do
        if (← current).token.isBracket "]" then pure none
        else some <$> expression fuel 0
      expect (.bracket "]")
      accesses fuel (← made (.slice t.pos node none hi))
    else
      let lo ← expression fuel 0
      if (← current).token.isOp ":" then
        advance
        let hi ← do
          if (← current).token.isBracket "]" then pure none
          else some <$> expression fuel 0
        expect (.bracket "]")
        accesses fuel (← made (.slice t.pos node (some lo) hi))
      else
        let m ← made (.member t.pos node lo optional)
        let m ← if optional then made (Node.chain t.pos m) else pure m
        expect (.bracket "]")
        accesses fuel m

end

end Parser

/-- Parses a whole source: a sequence that must reach the end of input. -/
def Node.parse (src : List Char) : Except Located Node := do
  let toks ← Token.scanAll src
  let fuel := 64 * (toks.length + 4)
  let run : Parser.ParseM Node := do
    let node ← Parser.sequence fuel
    if (← Parser.current).token != .eof then Parser.unexpected
    return node
  let (node, _) ← run.run { toks := toks.toArray, idx := 0, depth := 0 }
  return node

end Expr

end ProcessTitle
