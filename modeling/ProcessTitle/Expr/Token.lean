import ProcessTitle.Text.Utf8
import ProcessTitle.Text.Quoted
import ProcessTitle.Expr.Syntax
import ProcessTitle.Unicode.Category

/-!
Tokens of the title expression language and the scanner that produces them; each token
remembers the character offset where it starts.
-/

namespace ProcessTitle

namespace Expr

inductive Token where
  | ident (name : String)
  | number (text : String)
  | str (value : Bytes)
  | bytes (value : Bytes)
  | op (text : String)
  | bracket (text : String)
  | eof
deriving DecidableEq, Repr, Inhabited

namespace Token

def parts : Token → String × Bytes
  | .ident s => ("Identifier", Bytes.ofString s)
  | .number s => ("Number", Bytes.ofString s)
  | .str s => ("String", s)
  | .bytes s => ("Bytes", s)
  | .op s => ("Operator", Bytes.ofString s)
  | .bracket s => ("Bracket", Bytes.ofString s)
  | .eof => ("EOF", [])

/-- How a token is named in error messages: its kind, then its text quoted in parentheses
unless the text is empty. -/
def describe (t : Token) : Bytes :=
  let (kind, text) := t.parts
  if text.isEmpty then Bytes.ofString kind
  else Bytes.ofString kind ++ [40] ++ Quoted.quote text ++ [41]

def isOp (t : Token) (s : String) : Bool := t == .op s

def isBracket (t : Token) (s : String) : Bool := t == .bracket s

end Token

structure Lexeme where
  token : Token
  pos : Nat
deriving Repr, Inhabited

namespace Lexer

def isNameChar (c : Char) : Bool :=
  if c.toNat < 128 then c == '_' || c == '$' || c.isAlphanum
  else Unicode.isLetter c.toNat || Unicode.isDigit c.toNat

def backquote : Char := Char.ofNat 96

def keywords : List String :=
  ["in", "or", "and", "not", "matches", "contains", "startsWith", "endsWith", "let", "if", "else"]

def hexValue (c : Char) : Option Nat :=
  if '0' ≤ c && c ≤ '9' then some (c.toNat - 48)
  else if 'a' ≤ c && c ≤ 'f' then some (c.toNat - 87)
  else if 'A' ≤ c && c ≤ 'F' then some (c.toNat - 55)
  else none

def digitValue (c : Char) : Nat := (hexValue c).getD 16

/-- Scans `n` digits of base `b`; the rest, whether all were there, and how many were. -/
def scanDigits : Nat → Nat → List Char → List Char × Bool × Nat
  | 0, _, cs => (cs, true, 0)
  | n + 1, b, c :: cs =>
    if digitValue c < b then
      let (rest, ok, k) := scanDigits n b cs
      (rest, ok, k + 1)
    else (c :: cs, false, 0)
  | _ + 1, _, [] => ([], false, 0)

/-- The result of scanning a quoted string: the characters after its closing quote, how many
characters of the body and closing quote it took, and an error message with its offset from
the opening quote, if any. -/
structure QuotedScan where
  rest : List Char
  length : Nat
  failure : Option (String × Nat)

def QuotedScan.note (r : QuotedScan) (msg : String) (off : Nat) : QuotedScan :=
  { r with failure := some (msg, off) }

/-- Scans the body of a string quoted with `q` after the opening quote. Escapes are checked
here; their meaning is applied afterwards. `taken` counts body characters consumed so far, so
the next character sits at offset `taken + 1` from the opening quote. -/
def scanQuoted (q : Char) : Nat → List Char → Nat → QuotedScan
  | 0, cs, taken => ⟨cs, taken, some ("literal not terminated", taken + 1)⟩
  | _ + 1, [], taken => ⟨[], taken, some ("literal not terminated", taken + 1)⟩
  | fuel + 1, c :: cs, taken =>
    if c == q then ⟨cs, taken + 1, none⟩
    else if c == '\\' then
      match cs with
      | [] => ⟨[], taken + 1, some ("invalid char escape", taken + 2)⟩
      | e :: es =>
        let simple := e == 'a' || e == 'b' || e == 'f' || e == 'n' || e == 'r' || e == 't' ||
          e == 'v' || e == '\\' || e == q
        let digits : Option (Nat × Nat) :=
          if '0' ≤ e && e ≤ '7' then some (2, 8)
          else if e == 'x' then some (2, 16)
          else if e == 'u' then some (4, 16)
          else if e == 'U' then some (8, 16)
          else none
        if simple then scanQuoted q fuel es (taken + 2)
        else if e == 'u' && es.head? == some '{' then
          -- `\u{...}`: hexadecimal digits up to the closing brace, at least one
          let ds := (es.drop 1).takeWhile fun d => (hexValue d).isSome
          let rest := (es.drop 1).drop ds.length
          let used := taken + 3 + ds.length
          match rest with
          | '}' :: after =>
            if ds.isEmpty then (scanQuoted q fuel after (used + 1)).note "invalid char escape" (used + 1)
            else scanQuoted q fuel after (used + 1)
          | _ => (scanQuoted q fuel rest used).note "invalid char escape" (used + 1)
        else match digits with
          | some (n, b) =>
            let (rest, ok, k) := scanDigits n b es
            let used := taken + 2 + k
            if ok then scanQuoted q fuel rest used
            else (scanQuoted q fuel rest used).note "invalid char escape" (used + 1)
          | none => (scanQuoted q fuel es (taken + 2)).note "invalid char escape" (taken + 2)
    else scanQuoted q fuel cs (taken + 1)

def readHex : Nat → List Char → Option (Nat × List Char)
  | 0, cs => some (0, cs)
  | n + 1, c :: cs =>
    match hexValue c, readHex n cs with
    | some d, some (v, rest) => some (d * 16 ^ n + v, rest)
    | _, _ => none
  | _ + 1, [] => none

/-- The UTF-8 bytes of a code point given by an escape; a value that is no character becomes
the replacement character. -/
def encodePoint (v : Nat) : Bytes :=
  if v < 0xD800 || (0xE000 ≤ v && v ≤ 0x10FFFF) then String.utf8EncodeChar (Char.ofNat v)
  else String.utf8EncodeChar '�'

/-- The bytes a quoted string's body stands for, once its escapes are applied. In a byte
string (`raw`) a hexadecimal or octal escape is one byte; in a text it is the code point of that
value. -/
def unescape (raw : Bool) : Nat → List Char → Except String Bytes
  | 0, _ => .error "unable to unescape string"
  | _ + 1, [] => .ok []
  | _ + 1, '\\' :: [] => .error "unable to unescape string, found '\\' as last character"
  | fuel + 1, '\\' :: e :: rest =>
    let simple : Option Nat :=
      match e with
      | 'a' => some 7 | 'b' => some 8 | 'f' => some 12 | 'n' => some 10 | 'r' => some 13
      | 't' => some 9 | 'v' => some 11 | '\\' => some 92 | '\'' => some 39 | '"' => some 34
      | '?' => some 63 | _ => if e == backquote then some 96 else none
    match simple with
    | some b => (unescape raw fuel rest).map (b.toUInt8 :: ·)
    | none =>
      let width : Option Nat :=
        match e with
        | 'x' | 'X' => some 2 | 'u' => some 4 | 'U' => some 8 | _ => none
      match width, rest with
      | some _, '{' :: braced =>
        let ds := braced.takeWhile fun d => (hexValue d).isSome
        match braced.drop ds.length, readHex ds.length ds with
        | '}' :: rest', some (v, _) =>
          if e != 'u' || ds.isEmpty || v > 0x10FFFF then .error "unable to unescape string"
          else (unescape raw fuel rest').map (encodePoint v ++ ·)
        | _, _ => .error "unable to unescape string"
      | some n, _ =>
        match readHex n rest with
        | some (v, rest') =>
          if v > 0x10FFFF then .error "unable to unescape string"
          else if raw && n == 2 then (unescape raw fuel rest').map (v.toUInt8 :: ·)
          else (unescape raw fuel rest').map (encodePoint v ++ ·)
        | none => .error "unable to unescape string"
      | none, _ =>
        if '0' ≤ e && e ≤ '3' then
          match rest with
          | d1 :: d2 :: rest' =>
            if '0' ≤ d1 && d1 ≤ '7' && '0' ≤ d2 && d2 ≤ '7' then
              let v := (e.toNat - 48) * 64 + (d1.toNat - 48) * 8 + (d2.toNat - 48)
              if raw then (unescape raw fuel rest').map (v.toUInt8 :: ·)
              else (unescape raw fuel rest').map (encodePoint v ++ ·)
            else .error "unable to unescape octal sequence in string"
          | _ => .error "unable to unescape octal sequence in string"
        else .error "unable to unescape string"
  | fuel + 1, c :: rest => (unescape raw fuel rest).map (String.utf8EncodeChar c ++ ·)

/-- The body of a raw string after its opening backquote, in which two backquotes stand for
one, and how many characters it took with its closing backquote; `none` when it is not
closed. -/
def rawString : List Char → Option (List Char × Nat)
  | [] => none
  | c :: rest =>
    if c == backquote then
      match rest with
      | d :: more =>
        if d == backquote then (rawString more).map fun (b, n) => (backquote :: b, n + 2)
        else some ([], 1)
      | [] => some ([], 1)
    else (rawString rest).map fun (b, n) => (c :: b, n + 1)

def span (p : Char → Bool) (cs : List Char) : List Char × List Char :=
  (cs.takeWhile p, cs.dropWhile p)

/-- Scans a number. The digits allowed depend on a `0x`, `0o` or `0b` prefix; a fraction
is taken unless a second dot follows (a range), then an exponent. A letter or digit right after
the number makes it malformed; the text read so far, that character included, is returned. -/
def scanNumber (cs : List Char) : Except (List Char) (List Char × List Char) :=
  let (pre, cs1) : List Char × List Char :=
    match cs with
    | '0' :: c :: r => if c == 'x' || c == 'X' || c == 'o' || c == 'O' || c == 'b' || c == 'B' then (['0', c], r) else (['0'], c :: r)
    | '0' :: [] => (['0'], [])
    | _ => ([], cs)
  let isDigit : Char → Bool :=
    match pre with
    | [_, c] =>
      if c == 'x' || c == 'X' then fun d => (hexValue d).isSome || d == '_'
      else if c == 'o' || c == 'O' then fun d => ('0' ≤ d && d ≤ '7') || d == '_'
      else fun d => d == '0' || d == '1' || d == '_'
    | _ => fun d => ('0' ≤ d && d ≤ '9') || d == '_'
  let (ds, cs2) := span isDigit cs1
  let (frac, cs3) : List Char × List Char :=
    match cs2 with
    | '.' :: '.' :: _ => ([], cs2)
    | '.' :: r => let (f, r') := span isDigit r; ('.' :: f, r')
    | _ => ([], cs2)
  let (ex, cs4) : List Char × List Char :=
    match cs3 with
    | e :: r =>
      if e == 'e' || e == 'E' then
        let (sgn, r1) : List Char × List Char :=
          match r with
          | s :: r' => if s == '+' || s == '-' then ([s], r') else ([], r)
          | [] => ([], [])
        let (d, r2) := span isDigit r1
        (e :: sgn ++ d, r2)
      else ([], cs3)
    | [] => ([], [])
  let text := pre ++ ds ++ frac ++ ex
  match cs4 with
  | c :: _ => if isNameChar c then .error (text ++ [c]) else .ok (text, cs4)
  | [] => .ok (text, cs4)

def skipBlockComment : List Char → Option (List Char)
  | [] => none
  | '*' :: '/' :: rest => some rest
  | _ :: rest => skipBlockComment rest

def fail (pos : Nat) (msg : String) : Except Located (List Lexeme) := .error (Located.ofString pos msg)

def describeChar (c : Char) : String :=
  let width := if c.toNat > 0xFFFFF then 6 else if c.toNat > 0xFFFF then 5 else 4
  let hex := String.ofList ((Quoted.hexFixed width c.toNat).map fun b => (Char.ofNat b.toNat).toUpper)
  if Quoted.isPrint c then "U+" ++ hex ++ " '" ++ c.toString ++ "'" else "U+" ++ hex

def scan : Nat → List Char → Nat → Except Located (List Lexeme)
  | 0, _, pos => fail pos "unexpected end of input"
  | _ + 1, [], pos => .ok [⟨.eof, if pos ≥ 1 then pos - 1 else 0⟩]
  | fuel + 1, c :: cs, pos =>
    let emit (t : Token) (n : Nat) (rest : List Char) : Except Located (List Lexeme) :=
      (scan fuel rest (pos + n)).map (⟨t, pos⟩ :: ·)
    -- a quoted string after its opening quote `q`, as text or as bytes (`raw`), whose body
    -- starts `lead` characters after `pos`
    let quoted (q : Char) (body : List Char) (lead : Nat) (raw : Bool) : Except Located (List Lexeme) :=
      -- the fuel left exceeds what is left of the source, so it bounds the body too
      let r := scanQuoted q (fuel + 1) body 0
      match r.failure with
      | some (msg, off) => fail (pos + lead - 1 + off) msg
      | none =>
        match unescape raw (r.length + 1) (body.take (r.length - 1)) with
        | .ok v => emit (if raw then .bytes v else .str v) (r.length + lead) r.rest
        | .error msg => fail (pos + lead - 1 + r.length) msg
    if Blank.isBlank c then scan fuel cs (pos + 1)
    else if c == '"' || c == '\'' then quoted c cs 1 false
    else if c == 'b' && (cs.head? == some '"' || cs.head? == some '\'') then
      quoted (cs.headD '"') (cs.drop 1) 2 true
    else if c == backquote then
      match rawString cs with
      | some (body, used) => emit (.str (Bytes.ofString (String.ofList body))) (used + 1) (cs.drop used)
      | none => fail (pos + cs.length + 1) "literal not terminated"
    else if '0' ≤ c && c ≤ '9' then
      match scanNumber (c :: cs) with
      | .ok (text, rest) => emit (.number (String.ofList text)) text.length rest
      | .error text =>
        fail (pos + text.length - 1)
          ("bad number syntax: " ++ Utf8.toText (Quoted.quote (Bytes.ofString (String.ofList text))))
    else if c == '?' then
      match cs with
      | '.' :: rest => emit (.op "?.") 2 rest
      | '?' :: rest => emit (.op "??") 2 rest
      | _ => emit (.op "?") 1 cs
    else if c == '/' then
      match cs with
      | '/' :: rest =>
        let after := rest.dropWhile (· != '\n')
        scan fuel (after.drop 1) (pos + 2 + (rest.length - after.length) + (if after.isEmpty then 0 else 1))
      | '*' :: rest =>
        match skipBlockComment rest with
        | some after => scan fuel after (pos + 2 + (rest.length - after.length))
        | none => fail (pos + cs.length + 1) "unclosed comment"
      | _ => emit (.op "/") 1 cs
    else if c == '#' then
      let (hashes, cs1) : String × List Char :=
        match cs with
        | '#' :: r => ("##", r)
        | _ => ("#", cs)
      let (name, rest) := span isNameChar cs1
      if name.isEmpty then emit (.op hashes) hashes.length rest
      else
        (scan fuel rest (pos + hashes.length + name.length)).map
          (fun ls => ⟨.op hashes, pos⟩ :: ⟨.ident (String.ofList name), pos + hashes.length⟩ :: ls)
    else if c == '|' then
      match cs with
      | '|' :: rest => emit (.op "||") 2 rest
      | _ => emit (.op "|") 1 cs
    else if c == ':' then
      match cs with
      | ':' :: rest => emit (.op "::") 2 rest
      | _ => emit (.op ":") 1 cs
    else if c == '(' || c == '[' || c == '{' || c == ')' || c == ']' || c == '}' then
      emit (.bracket c.toString) 1 cs
    else if c == ',' || c == ';' || c == '%' || c == '+' || c == '-' || c == '^' then
      emit (.op c.toString) 1 cs
    else if c == '&' || c == '!' || c == '=' || c == '*' || c == '<' || c == '>' then
      match cs with
      | d :: rest =>
        if d == '&' || d == '=' || d == '*' then emit (.op (String.ofList [c, d])) 2 rest
        else emit (.op c.toString) 1 cs
      | [] => emit (.op c.toString) 1 cs
    else if c == '.' then
      match cs with
      | d :: _ =>
        if '0' ≤ d && d ≤ '9' then
          match scanNumber cs with
          | .ok (text, rest) => emit (.number (String.ofList ('.' :: text))) (text.length + 1) rest
          | .error text =>
            fail (pos + text.length)
              ("bad number syntax: " ++ Utf8.toText (Quoted.quote (Bytes.ofString (String.ofList ('.' :: text)))))
        else if d == '.' then emit (.op "..") 2 (cs.drop 1)
        else emit (.op ".") 1 cs
      | [] => emit (.op ".") 1 cs
    else if isNameChar c then
      let (name, rest) := span isNameChar (c :: cs)
      let word := String.ofList name
      emit (if keywords.contains word then .op word else .ident word) name.length rest
    else fail pos ("unrecognized character: " ++ describeChar c)

end Lexer

/-- The tokens of a source, ending with the end-of-input token. -/
def Token.scanAll (src : List Char) : Except Located (List Lexeme) :=
  Lexer.scan (src.length + 2) src 0

end Expr

end ProcessTitle
