import ProcessTitle.Expr.Value
import ProcessTitle.Text.Quoted
import ProcessTitle.Decimal.Read
import ProcessTitle.Text.Base64

/-!
# JSON documents

`Json.parse` checks a document byte by byte, so a message names the first byte that cannot
continue it; `Json.write` writes a value as an indented document.
-/

namespace ProcessTitle

namespace Expr

namespace Json

inductive Frame where
  | objectKey
  | objectValue
  | arrayValue
deriving DecidableEq, Repr

/-- The states of the scanner. -/
inductive State where
  | beginValue
  | beginValueOrEmpty
  | beginStringOrEmpty
  | beginString
  | endValue
  | endTop
  | inString
  | inStringEsc
  | inStringEscU (k : Nat)
  | neg
  | one
  | zero
  | dot
  | dot0
  | exp
  | expSign
  | exp0
  /-- Inside a literal: the bytes still expected and the literal's name. -/
  | lit (rest : Bytes) (name : String)
deriving DecidableEq, Repr

structure Scanner where
  state : State
  stack : List Frame

def isSpace (c : UInt8) : Bool := c == 32 || c == 9 || c == 13 || c == 10

def isDigit (c : UInt8) : Bool := 48 ≤ c && c ≤ 57

/-- A byte as messages show it: in single quotes, escaped as a quoted string would be, with
the byte read as the character of the same number. -/
def quoteChar (c : UInt8) : String :=
  if c == 39 then "'\\''"
  else if c == 34 then "'\"'"
  else
    let q := Quoted.quote (Bytes.ofString (Char.ofNat c.toNat).toString)
    "'" ++ Utf8.toText ((q.drop 1).take (q.length - 2)) ++ "'"

def invalid (c : UInt8) (context : String) : String :=
  "invalid character " ++ quoteChar c ++ " " ++ context

def afterValue (stack : List Frame) : Scanner :=
  match stack with
  | [] => ⟨.endTop, []⟩
  | _ => ⟨.endValue, stack⟩

def maxDepth : Nat := 10000

/-- Whether the scanner is as deep in containers as it may go, so that opening one more
fails. -/
def Scanner.full (s : Scanner) : Bool := maxDepth ≤ s.stack.length

def step (s : Scanner) (c : UInt8) : Except String Scanner :=
  let go (st : State) : Except String Scanner := .ok { s with state := st }
  let open_ (st : State) (f : Frame) : Except String Scanner :=
    if s.full then .error "exceeded max depth" else .ok ⟨st, f :: s.stack⟩
  let beginValue : Except String Scanner :=
    if isSpace c then go .beginValue
    else if c == 123 then open_ .beginStringOrEmpty .objectKey
    else if c == 91 then open_ .beginValueOrEmpty .arrayValue
    else if c == 34 then go .inString
    else if c == 45 then go .neg
    else if c == 48 then go .zero
    else if 49 ≤ c && c ≤ 57 then go .one
    else if c == 116 then go (.lit (Bytes.ofString "rue") "true")
    else if c == 102 then go (.lit (Bytes.ofString "alse") "false")
    else if c == 110 then go (.lit (Bytes.ofString "ull") "null")
    else .error (invalid c "looking for beginning of value")
  let endValue : Except String Scanner :=
    match s.stack with
    | [] => if isSpace c then .ok ⟨.endTop, []⟩ else .error (invalid c "after top-level value")
    | top :: rest =>
      if isSpace c then go .endValue
      else match top with
        | .objectKey =>
          if c == 58 then .ok ⟨.beginValue, .objectValue :: rest⟩
          else .error (invalid c "after object key")
        | .objectValue =>
          if c == 44 then .ok ⟨.beginString, .objectKey :: rest⟩
          else if c == 125 then .ok (afterValue rest)
          else .error (invalid c "after object key:value pair")
        | .arrayValue =>
          if c == 44 then go .beginValue
          else if c == 93 then .ok (afterValue rest)
          else .error (invalid c "after array element")
  let beginString : Except String Scanner :=
    if isSpace c then go .beginString
    else if c == 34 then go .inString
    else .error (invalid c "looking for beginning of object key string")
  let endNumber : Except String Scanner :=
    -- the byte after a number is read as after any value
    match s.stack with
    | [] => if isSpace c then .ok ⟨.endTop, []⟩ else .error (invalid c "after top-level value")
    | _ => endValue
  let zero : Except String Scanner :=
    if c == 46 then go .dot
    else if c == 101 || c == 69 then go .exp
    else endNumber
  match s.state with
  | .beginValue => beginValue
  | .beginValueOrEmpty =>
    if isSpace c then go .beginValueOrEmpty
    else if c == 93 then
      match s.stack with
      | _ :: rest => .ok (afterValue rest)
      | [] => .ok (afterValue [])
    else beginValue
  | .beginStringOrEmpty =>
    if isSpace c then go .beginStringOrEmpty
    else if c == 125 then
      match s.stack with
      | _ :: rest => .ok (afterValue rest)
      | [] => .ok (afterValue [])
    else beginString
  | .beginString => beginString
  | .endValue => endValue
  | .endTop => if isSpace c then go .endTop else .error (invalid c "after top-level value")
  | .inString =>
    if c == 34 then .ok (afterValue s.stack)
    else if c == 92 then go .inStringEsc
    else if c < 32 then .error (invalid c "in string literal")
    else go .inString
  | .inStringEsc =>
    if [98, 102, 110, 114, 116, 92, 47, 34].contains c then go .inString
    else if c == 117 then go (.inStringEscU 0)
    else .error (invalid c "in string escape code")
  | .inStringEscU k =>
    if isDigit c || (97 ≤ c && c ≤ 102) || (65 ≤ c && c ≤ 70) then
      (if k == 3 then go .inString else go (.inStringEscU (k + 1)))
    else .error (invalid c "in \\u hexadecimal character escape")
  | .neg =>
    if c == 48 then go .zero
    else if 49 ≤ c && c ≤ 57 then go .one
    else .error (invalid c "in numeric literal")
  | .one => if isDigit c then go .one else zero
  | .zero => zero
  | .dot => if isDigit c then go .dot0 else .error (invalid c "after decimal point in numeric literal")
  | .dot0 =>
    if isDigit c then go .dot0
    else if c == 101 || c == 69 then go .exp
    else endNumber
  | .exp =>
    if c == 43 || c == 45 then go .expSign
    else if isDigit c then go .exp0
    else .error (invalid c "in exponent of numeric literal")
  | .expSign => if isDigit c then go .exp0 else .error (invalid c "in exponent of numeric literal")
  | .exp0 => if isDigit c then go .exp0 else endNumber
  | .lit rest name =>
    match rest with
    | [] => endValue
    | e :: more =>
      if c == e then (if more.isEmpty then .ok (afterValue s.stack) else go (.lit more name))
      else .error ("invalid character " ++ quoteChar c ++ " in literal " ++ name ++
        " (expecting " ++ quoteChar e ++ ")")

def validate (s : Bytes) : Except String Unit := do
  let sc ← s.foldlM step ⟨.beginValue, []⟩
  if sc.state == .endTop then return ()
  let sc' ← step sc 32
  if sc'.state == .endTop then return ()
  .error "unexpected end of JSON input"

/-! ### Reading a checked document -/

def encodePoint (n : Nat) : Bytes := Bytes.ofString (Char.ofNat n).toString

def hex4 (cs : Bytes) : Option Nat :=
  let v (c : UInt8) : Option Nat :=
    if isDigit c then some (c.toNat - 48)
    else if 97 ≤ c && c ≤ 102 then some (c.toNat - 87)
    else if 65 ≤ c && c ≤ 70 then some (c.toNat - 55)
    else none
  match cs with
  | [a, b, c, d] => do
    let a ← v a; let b ← v b; let c ← v c; let d ← v d
    return ((a * 16 + b) * 16 + c) * 16 + d
  | _ => none

/-- What the escape `\u` stands for, given the bytes after it: the bytes of its code point and
how many bytes it takes. A high surrogate followed by the escape of a low one stands for the
pair's code point; any other surrogate is U+FFFD. -/
def unicodeEscape (more : Bytes) : Bytes × Nat :=
  let u := (hex4 (more.take 4)).getD 0xFFFD
  if 0xD800 ≤ u && u < 0xDC00 then
    match more.drop 4 with
    | 92 :: 117 :: tail =>
      let l := (hex4 (tail.take 4)).getD 0
      if 0xDC00 ≤ l && l < 0xE000 then (encodePoint (0x10000 + (u - 0xD800) * 1024 + (l - 0xDC00)), 10)
      else (encodePoint 0xFFFD, 4)
    | _ => (encodePoint 0xFFFD, 4)
  else if 0xDC00 ≤ u && u < 0xE000 then (encodePoint 0xFFFD, 4)
  else (encodePoint u, 4)

/-- The bytes of a string body up to its closing quote, with escapes resolved; a lone
surrogate and every invalid byte become U+FFFD. Also the rest after the quote. `acc` holds the
bytes read so far, last first. -/
def stringBodyFrom (acc : Bytes) : Bytes → Bytes × Bytes
  | [] => (acc.reverse, [])
  | c :: rest =>
    if c == 34 then (acc.reverse, rest)
    else if c == 92 then
      match rest with
      | 117 :: more =>
        let (piece, n) := unicodeEscape more
        stringBodyFrom (piece.reverse ++ acc) (more.drop n)
      | e :: more =>
        let ch : UInt8 := match e with
          | 98 => 8 | 102 => 12 | 110 => 10 | 114 => 13 | 116 => 9 | other => other
        stringBodyFrom (ch :: acc) more
      | [] => (acc.reverse, [])
    else
      let (p, used) := Utf8.head c rest
      let piece := match p with
        | .char _ => p.bytes
        | .stray _ => encodePoint 0xFFFD
      stringBodyFrom (piece.reverse ++ acc) (rest.drop used)
termination_by s => s.length
decreasing_by all_goals simp_wf <;> omega

def stringBody (s : Bytes) : Bytes × Bytes := stringBodyFrom [] s

def skipSpace (s : Bytes) : Bytes := s.dropWhile isSpace

def rangeFailure (text : Bytes) : String :=
  "json: cannot unmarshal number " ++ Utf8.toText text ++ " into Go value of type float64"

mutual

/-- Reads one value of a checked document; also the rest. The first number out of range is
the failure. -/
def value : Nat → Bytes → Except String (Value × Bytes)
  | 0, s => .ok (.nil, s)
  | fuel + 1, s =>
    match skipSpace s with
    | 123 :: rest => do
      let (entries, r) ← members fuel (skipSpace rest) []
      return (.map .string .any (Value.entriesOf entries.reverse), r)
    | 91 :: rest =>
      match skipSpace rest with
      | 93 :: r => .ok (.array .any [], r)
      | _ => do
        let (items, r) ← elements fuel rest []
        return (.array .any items.reverse, r)
    | 34 :: rest =>
      let (b, r) := stringBody rest
      .ok (.str b, r)
    | 116 :: rest => .ok (.bool true, rest.drop 3)
    | 102 :: rest => .ok (.bool false, rest.drop 4)
    | 110 :: rest => .ok (.nil, rest.drop 3)
    | other =>
      let text := other.takeWhile fun c => isDigit c || c == 45 || c == 43 || c == 46 || c == 101 || c == 69
      let r := other.drop text.length
      match Decimal.readFloat (Utf8.toText text) with
      | .ok x => .ok (.float x, r)
      | .error _ => .error (rangeFailure text)

/-- Reads the members of an object after its opening brace, adding them to `acc` last
first. -/
def members : Nat → Bytes → List (Value × Value) → Except String (List (Value × Value) × Bytes)
  | 0, s, acc => .ok (acc, s)
  | fuel + 1, s, acc =>
    match skipSpace s with
    | 125 :: r => .ok (acc, r)
    | 44 :: r => members fuel r acc
    | 34 :: rest => do
      let (k, r) := stringBody rest
      let r' := (skipSpace r).drop 1
      let (v, r'') ← value fuel r'
      members fuel r'' ((.str k, v) :: acc)
    | _ => .ok (acc, [])

/-- Reads the elements of an array after its opening bracket, adding them to `acc` last
first. -/
def elements : Nat → Bytes → List Value → Except String (List Value × Bytes)
  | 0, s, acc => .ok (acc, s)
  | fuel + 1, s, acc =>
    match skipSpace s with
    | 93 :: r => .ok (acc, r)
    | 44 :: r => elements fuel r acc
    | s' => do
      let (v, r) ← value fuel s'
      elements fuel r (v :: acc)

end

def parse (s : Bytes) : Except String Value := do
  validate s
  let (v, _) ← value (s.length + 1) s
  return v

/-! ### Writing a document -/

/-- A string as a JSON string: quotes, backslashes and control characters escaped, `<`, `>`,
`&`, U+2028 and U+2029 as `\u` escapes, stray bytes as `�`. -/
def quoteString (s : Bytes) : Bytes :=
  let esc (n : Nat) : Bytes := Bytes.ofString "\\u" ++ Quoted.hexFixed 4 n
  let piece : Utf8Piece → Bytes
    | .stray _ => Bytes.ofString "\\ufffd"
    | .char c =>
      let n := c.toNat
      if n == 34 then Bytes.ofString "\\\""
      else if n == 92 then Bytes.ofString "\\\\"
      else if n == 10 then Bytes.ofString "\\n"
      else if n == 13 then Bytes.ofString "\\r"
      else if n == 9 then Bytes.ofString "\\t"
      else if n == 8 then Bytes.ofString "\\b"
      else if n == 12 then Bytes.ofString "\\f"
      else if n < 32 || n == 60 || n == 62 || n == 38 || n == 0x2028 || n == 0x2029 then esc n
      else Bytes.ofString c.toString
  [34] ++ (Utf8.decode s).flatMap piece ++ [34]

def number (x : Float) : Except String Bytes :=
  if x.isNaN || x.isInf then
    .error ("json: unsupported value: " ++ Decimal.render Decimal.FloatStyle.general x)
  else .ok (Bytes.ofString (Decimal.render Decimal.FloatStyle.json x))

/-- The text of a map key, by the map's key type: strings as they are, integers in decimal;
a map with keys of any type takes the strings and integers among them the same way. `none`
for a key that cannot name a member. -/
def keyText (keyTy : Ty) (key : Value) : Option Bytes :=
  match keyTy, key with
  | .string, .str s | .any, .str s => some s
  | .int, .int n | .any, .int n | .any, .duration n => some (Bytes.ofString (toString n))
  | .any, .byte b => some (Bytes.ofString (toString b.toNat))
  | _, _ => none

def keyWritable : Ty → Bool
  | .string | .int | .any => true
  | _ => false

def pointerToken (s : Bytes) : Bytes :=
  s.flatMap fun b => if b == 126 then [126, 48] else if b == 47 then [126, 49] else [b]

/-- The failure for a map key that is no string: where the map is, as a JSON pointer when it
is inside another value, and the offset in the compact document just past its opening brace
and one more byte. -/
def memberNameFailure (path : List Bytes) (offset : Nat) : String :=
  let within :=
    if path.isEmpty then ""
    else " within " ++ Utf8.toText (Quoted.quote (path.reverse.flatMap fun t => 47 :: pointerToken t))
  "json: unsupported value: jsontext: object member name must be a string" ++ within ++
    " after offset " ++ toString (offset + 2)

abbrev WriteM := StateT (Array UInt8) (Except String)

def emit (b : Bytes) : WriteM Unit := modify fun out => b.foldl Array.push out

def scalar (b : Bytes) : WriteM Nat := do emit b; return b.length

/-- Writes a value at an indentation depth, starting `offset` bytes into the compact form of
the document, inside the containers named by `path` (innermost first). Gives the length of the
value's compact text. A list of bytes is written as a Base64 string. A map's keys are all
checked before any of its values is written; its members come in the order of their key
texts. -/
def render : Value → Nat → Nat → List Bytes → WriteM Nat
  | .nil, _, _, _ => scalar (Bytes.ofString "null")
  | .bool b, _, _, _ => scalar (Bytes.ofString (if b then "true" else "false"))
  | .int n, _, _, _ => scalar (Bytes.ofString (toString n))
  | .byte b, _, _, _ => scalar (Bytes.ofString (toString b.toNat))
  | .duration n, _, _, _ => scalar (Bytes.ofString (toString n))
  | .float x, _, _, _ => do scalar (← number x)
  | .str s, _, _, _ => scalar (quoteString s)
  | .array .byte xs, _, _, _ =>
    scalar (quoteString (Base64.encode (xs.map fun x => match x with
      | .byte b => b
      | _ => 0)))
  | .array _ [], _, _, _ => scalar (Bytes.ofString "[]")
  | .array _ xs, depth, offset, path => do
    let inner := List.replicate (2 * (depth + 1)) (32 : UInt8)
    emit [91, 10]
    let step (acc : Nat × Nat) : { x // x ∈ xs } → WriteM (Nat × Nat)
      | ⟨x, _⟩ => do
        let (size, i) := acc
        if i != 0 then emit [44, 10]
        let size := if i == 0 then size else size + 1
        emit inner
        let n ← render x (depth + 1) (offset + size) (Bytes.ofString (toString i) :: path)
        return (size + n, i + 1)
    let (size, _) ← xs.attach.foldlM step (1, 0)
    emit ([10] ++ List.replicate (2 * depth) 32 ++ [93])
    return size + 1
  | .map k val kvs, depth, offset, path =>
    if !keyWritable k then throw ("json: unsupported type: " ++ (Value.map k val []).typeName)
    else if kvs.isEmpty then scalar (Bytes.ofString "\x7b\x7d")
    else do
      let inner := List.replicate (2 * (depth + 1)) (32 : UInt8)
      let named : List (Bytes × { e // e ∈ kvs }) ← kvs.attach.mapM fun p =>
        match keyText k p.1.1 with
        | some t => pure (t, p)
        | none => throw (memberNameFailure path offset)
      let sorted := named.mergeSort fun a b => !(Bytes.lexLt b.1 a.1)
      emit [123, 10]
      let step (acc : Nat × Nat) : Bytes × { e // e ∈ kvs } → WriteM (Nat × Nat)
        | (t, ⟨(_, x), _⟩) => do
          let (size, i) := acc
          if i != 0 then emit [44, 10]
          let size := if i == 0 then size else size + 1
          let name := quoteString t
          emit (inner ++ name ++ [58, 32])
          let n ← render x (depth + 1) (offset + size + name.length + 1) (t :: path)
          return (size + name.length + 1 + n, i + 1)
      let (size, _) ← sorted.foldlM step (1, 0)
      emit ([10] ++ List.replicate (2 * depth) 32 ++ [125])
      return size + 1
termination_by v => v
decreasing_by
  all_goals simp_wf
  all_goals first
    | (have hm := List.sizeOf_lt_of_mem ‹_ ∈ _›; omega)
    | (have h := List.sizeOf_lt_of_mem ‹_ ∈ _›; simp at h; omega)

def write (v : Value) : Except String Bytes :=
  (render v 0 0 [] |>.run #[]).map fun (_, out) => out.toList

end Json

end Expr

end ProcessTitle
