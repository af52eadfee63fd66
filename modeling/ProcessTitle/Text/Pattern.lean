import ProcessTitle.Text.Utf8
import ProcessTitle.Unicode.Property
import ProcessTitle.Unicode.Fold

/-!
# Regular expressions

`Pattern.compile` reads the RE2 syntax with Perl extensions and refuses what it refuses, with
its messages. `Pattern.search` runs the compiled program on all its threads at once, one
character at a time, so time stays linear in the text.
-/

namespace ProcessTitle

namespace Pattern

/-- The flags in force while reading: case folding, `.` matching a newline, and `^`/`$`
holding at the ends of the text only. -/
structure Flags where
  fold : Bool := false
  dotNL : Bool := false
  oneLine : Bool := true
deriving Repr, Inhabited

/-- A zero-width assertion. -/
inductive Anchor where
  | beginText
  | endText
  | beginLine
  | endLine
  | wordBoundary
  | notWordBoundary
deriving DecidableEq, Repr

/-- One member of a character class: a range, the characters with a Unicode property or
without it, or the complement of some ranges. -/
inductive Member where
  | range (lo hi : Nat)
  | prop (p : Unicode.Property) (negated : Bool)
  | outside (ranges : List (Nat × Nat))
deriving Repr, Inhabited

/-- A test of one character. -/
inductive Atom where
  | any (newline : Bool)
  | lit (c : Nat) (fold : Bool)
  | cls (members : List Member) (negated fold : Bool)
deriving Repr, Inhabited

/-- A regular expression. -/
inductive Re where
  | empty
  | atom (a : Atom)
  | assert (a : Anchor)
  | cat (a b : Re)
  | alt (a b : Re)
  | star (r : Re)
  | plus (r : Re)
  | quest (r : Re)
  | rep (r : Re) (min : Nat) (max : Option Nat)
  | group (r : Re)
deriving Repr, Inhabited

/-! ### Characters -/

def inRanges (rs : List (Nat × Nat)) (c : Nat) : Bool := rs.any fun (lo, hi) => lo ≤ c && c ≤ hi

def wordRanges : List (Nat × Nat) := [(48, 57), (65, 90), (95, 95), (97, 122)]

def perlRanges : Char → Option (List (Nat × Nat))
  | 'd' => some [(48, 57)]
  | 's' => some [(9, 10), (12, 13), (32, 32)]
  | 'w' => some wordRanges
  | _ => none

def posixRanges : String → Option (List (Nat × Nat))
  | "alnum" => some [(48, 57), (65, 90), (97, 122)]
  | "alpha" => some [(65, 90), (97, 122)]
  | "ascii" => some [(0, 127)]
  | "blank" => some [(9, 9), (32, 32)]
  | "cntrl" => some [(0, 31), (127, 127)]
  | "digit" => some [(48, 57)]
  | "graph" => some [(33, 126)]
  | "lower" => some [(97, 122)]
  | "print" => some [(32, 126)]
  | "punct" => some [(33, 47), (58, 64), (91, 96), (123, 126)]
  | "space" => some [(9, 13), (32, 32)]
  | "upper" => some [(65, 90)]
  | "word" => some wordRanges
  | "xdigit" => some [(48, 57), (65, 70), (97, 102)]
  | _ => none

def Member.holds : Member → List Nat → Bool
  | .range lo hi, cs => cs.any fun c => lo ≤ c && c ≤ hi
  | .prop p neg, cs => (cs.any p.holds) != neg
  | .outside rs, cs => !(cs.any (inRanges rs))

/-- Whether an atom accepts a character. Under case folding a character stands for its orbit
under simple case folding: a literal accepts the members of its orbit, and a class accepts a
character when one of its members holds for the orbit. -/
def Atom.accepts : Atom → Nat → Bool
  | .any nl, c => nl || c != 10
  | .lit l fold, c => c == l || (fold && (Unicode.foldOrbit l).contains c)
  | .cls ms neg fold, c =>
    let cs := if fold then Unicode.foldOrbit c else [c]
    (ms.any (·.holds cs)) != neg

/-! ### Reading an expression -/

def refusal (kind : String) (text : List Char) : String :=
  "error parsing regexp: " ++ kind ++ ": " ++ (Char.ofNat 96).toString ++ String.ofList text ++
    (Char.ofNat 96).toString

abbrev Read (α : Type) := Except String (α × List Char)

def consumed (s t : List Char) : List Char := s.take (s.length - t.length)

def hexValue (c : Char) : Option Nat :=
  if '0' ≤ c && c ≤ '9' then some (c.toNat - 48)
  else if 'a' ≤ c && c ≤ 'f' then some (c.toNat - 87)
  else if 'A' ≤ c && c ≤ 'F' then some (c.toNat - 55)
  else none

def isAlnum (c : Char) : Bool := c.isAlphanum && c.toNat < 128

/-- Reads hexadecimal digits up to `}`: the value and the rest, or, when something else comes
first, the value passes the last code point, or no digit was read, the rest after the
character that ended the reading. -/
def hexBraced : Nat → List Char → Nat → Nat → Except (List Char) (Nat × List Char)
  | 0, t, _, _ => .error t
  | _ + 1, [], _, _ => .error []
  | fuel + 1, c :: t, acc, n =>
    if c == '}' then (if n == 0 then .error t else .ok (acc, t))
    else match hexValue c with
      | none => .error t
      | some v =>
        let acc' := acc * 16 + v
        if acc' > 0x10FFFF then .error t else hexBraced fuel t acc' (n + 1)

/-- Reads an escape `s` (which starts with a backslash) standing for one character. -/
def escape (s : List Char) : Read Nat :=
  match s.drop 1 with
  | [] => .error (refusal "trailing backslash at end of expression" [])
  | c :: t =>
    let bad (rest : List Char) : Read Nat := .error (refusal "invalid escape sequence" (consumed s rest))
    let octal (first : Nat) (t : List Char) : Read Nat :=
      let isOct (d : Char) : Bool := '0' ≤ d && d ≤ '7'
      match t with
      | d :: t' =>
        if isOct d then
          match t' with
          | e :: t'' => if isOct e then .ok (first * 64 + (d.toNat - 48) * 8 + (e.toNat - 48), t'')
              else .ok (first * 8 + (d.toNat - 48), t')
          | [] => .ok (first * 8 + (d.toNat - 48), t')
        else .ok (first, t)
      | [] => .ok (first, t)
    if c.toNat < 128 && !isAlnum c then .ok (c.toNat, t)
    else if '1' ≤ c && c ≤ '7' then
      match t with
      | d :: _ => if '0' ≤ d && d ≤ '7' then octal (c.toNat - 48) t else bad t
      | [] => bad t
    else if c == '0' then octal 0 t
    else if c == 'x' then
      match t with
      | [] => bad t
      | '{' :: t' =>
        match hexBraced (t'.length + 1) t' 0 0 with
        | .ok (v, rest) => .ok (v, rest)
        | .error rest => bad rest
      | a :: t' =>
        match t' with
        | b :: t'' =>
          match hexValue a, hexValue b with
          | some x, some y => .ok (x * 16 + y, t'')
          | _, _ => bad t''
        | [] => bad []
    else match c with
      | 'a' => .ok (7, t)
      | 'f' => .ok (12, t)
      | 'n' => .ok (10, t)
      | 'r' => .ok (13, t)
      | 't' => .ok (9, t)
      | 'v' => .ok (11, t)
      | _ => bad t

def unicodeClass (s : List Char) : Except String (Option (Member × List Char)) :=
  match s with
  | '\\' :: p :: rest =>
    if p != 'p' && p != 'P' then .ok none
    else
      let neg0 := p == 'P'
      let (seq, name, t) : List Char × List Char × List Char :=
        match rest with
        | '{' :: more =>
          match more.findIdx? (· == '}') with
          | some i => (s.take (i + 4), more.take i, more.drop (i + 1))
          | none => (s, [], [])
        | c :: more => (s.take 3, [c], more)
        | [] => (s.take 2, [], [])
      let braced := match rest with
        | '{' :: more => (more.findIdx? (· == '}')).isSome
        | _ => true
      if !braced then .error (refusal "invalid character class range" s)
      else
        let (neg, name') := match name with
          | '^' :: n => (!neg0, n)
          | n => (neg0, n)
        match Unicode.Property.named (String.ofList name') with
        | none => .error (refusal "invalid character class range" seq)
        | some prop => .ok (some (.prop prop neg, t))
  | _ => .ok none

def perlMembers (s : List Char) : Option (List Member × List Char) :=
  match s with
  | '\\' :: c :: t =>
    match perlRanges c with
    | some rs => some (rs.map fun (lo, hi) => .range lo hi, t)
    | none =>
      match perlRanges c.toLower with
      | some rs => if c.isUpper then some ([.outside rs], t) else none
      | none => none
  | _ => none

def colonBracket : List Char → Nat → Option Nat
  | ':' :: ']' :: _, i => some i
  | _ :: rest, i => colonBracket rest (i + 1)
  | [], _ => none

def posixClass (s : List Char) : Except String (Option (List Member × List Char)) :=
  match s with
  | '[' :: ':' :: rest =>
    if rest.isEmpty then .ok none
    else match colonBracket rest 0 with
      | none => .ok none
      | some i =>
        let (neg, name) : Bool × List Char :=
          match rest.take i with
          | '^' :: n => (true, n)
          | n => (false, n)
        match posixRanges (String.ofList name) with
        | some rs =>
          .ok (some ((if neg then [.outside rs] else rs.map fun (lo, hi) => .range lo hi), s.drop (i + 4)))
        | none => .error (refusal "invalid character class range" (s.take (i + 4)))
  | _ => .ok none

def classChar (s whole : List Char) : Read Nat :=
  match s with
  | [] => .error (refusal "missing closing ]" whole)
  | '\\' :: _ => escape s
  | c :: t => .ok (c.toNat, t)

def classMember (s whole : List Char) : Except String (List Member × List Char) := do
  match ← posixClass s with
  | some r => return r
  | none =>
  match ← unicodeClass s with
  | some (m, t) => return ([m], t)
  | none =>
  match perlMembers s with
  | some r => return r
  | none =>
    let (lo, t1) ← classChar s whole
    match t1 with
    | '-' :: c :: _ =>
      if c == ']' then return ([.range lo lo], t1)
      else
        let (hi, t2) ← classChar (t1.drop 1) whole
        if hi < lo then .error (refusal "invalid character class range" (consumed s t2))
        else return ([.range lo hi], t2)
    | _ => return ([.range lo lo], t1)

def classBody (whole : List Char) : Nat → List Char → List Member → Bool → Read (List Member)
  | 0, t, acc, _ => .ok (acc, t)
  | fuel + 1, t, acc, first =>
    let closes := match t with
      | ']' :: _ => !first
      | _ => false
    if closes then .ok (acc, t.drop 1)
    else
      match classMember t whole with
      | .error e => .error e
      | .ok (ms, rest) => classBody whole fuel rest (acc ++ ms) false

def charClass (s : List Char) (fold : Bool) : Except String (Atom × List Char) := do
  let (neg, body) : Bool × List Char :=
    match s.drop 1 with
    | '^' :: b => (true, b)
    | b => (false, b)
  let (ms, rest) ← classBody s (body.length + 2) body [] true
  return (.cls ms neg fold, rest)

/-- Reads a count `{n}`, `{n,}` or `{n,m}` at the start of `s`: the least and greatest count
(`-1` for no bound, or for a number too large) and the rest; `none` when `s` does not start
with one, in which case the `{` is a plain character. -/
def braces (s : List Char) : Option (Int × Int × List Char) :=
  let number (s : List Char) : Option (Int × List Char) :=
    match s with
    | c :: rest =>
      if !c.isDigit then none
      else if c == '0' && (rest.head?.map Char.isDigit).getD false then none
      else
        let ds := s.takeWhile Char.isDigit
        let v := ds.foldl (fun (n : Int) d => if n < 0 || n ≥ 100000000 then -1 else n * 10 + (d.toNat - 48 : Nat)) 0
        some (v, s.drop ds.length)
    | [] => none
  match s with
  | '{' :: s1 =>
    match number s1 with
    | none => none
    | some (lo, s2) =>
      match s2 with
      | '}' :: s3 => some (lo, lo, s3)
      | ',' :: '}' :: s4 => some (lo, -1, s4)
      | ',' :: s3 =>
        match number s3 with
        | some (hi, '}' :: s5) => some (if hi < 0 then -1 else lo, hi, s5)
        | _ => none
      | _ => none
  | _ => none

def validCount : Re → Nat → Bool
  | .rep r lo hi, n =>
    let m := hi.getD lo
    if hi == some 0 then true
    else if m > n then false
    else validCount r (if m > 0 then n / m else n)
  | .cat a b, n | .alt a b, n => validCount a n && validCount b n
  | .star r, n | .plus r, n | .quest r, n | .group r, n => validCount r n
  | _, _ => true

def seq : Re → Re → Re
  | .empty, b => b
  | a, .empty => a
  | a, b => .cat a b

def finish (acc : Re) (last : Option Re) : Re :=
  match last with
  | some l => seq acc l
  | none => acc

def flagGroup (s : List Char) (fl : Flags) : Read (Flags × Bool) :=
  go (s.length + 1) (s.drop 2) fl true false
where
  go : Nat → List Char → Flags → Bool → Bool → Read (Flags × Bool)
    | 0, t, _, _, _ => .error (refusal "invalid or unsupported Perl syntax" (consumed s t))
    | fuel + 1, t, fl, pos, saw =>
      match t with
      | [] => .error (refusal "invalid or unsupported Perl syntax" s)
      | c :: rest =>
        let bad : Read (Flags × Bool) := .error (refusal "invalid or unsupported Perl syntax" (consumed s rest))
        match c with
        | 'i' => go fuel rest { fl with fold := pos } pos true
        | 'm' => go fuel rest { fl with oneLine := !pos } pos true
        | 's' => go fuel rest { fl with dotNL := pos } pos true
        | 'U' => go fuel rest fl pos true
        | '-' => if !pos then bad else go fuel rest fl false false
        | ':' | ')' => if !pos && !saw then bad else .ok ((fl, c == ':'), rest)
        | _ => bad

def validName (name : List Char) : Bool :=
  !name.isEmpty && name.all fun c => c == '_' || isAlnum c

def quotedRun : List Char → List Char × List Char
  | '\\' :: 'E' :: rest => ([], rest)
  | c :: rest => let (l, r) := quotedRun rest; (c :: l, r)
  | [] => ([], [])

structure Parsed where
  re : Re
  flags : Flags
  rest : List Char

mutual

def alternation (whole : List Char) : Nat → Flags → List Char → Except String Parsed
  | 0, fl, t => .ok ⟨.empty, fl, t⟩
  | fuel + 1, fl, t => do
    let p ← concatenation whole fuel fl t .empty none none
    match p.rest with
    | '|' :: rest =>
      let q ← alternation whole fuel p.flags rest
      return ⟨.alt p.re q.re, q.flags, q.rest⟩
    | _ => return p

/-- Reads the items of a concatenation up to `|`, `)` or the end. `acc` is what is finished,
`last` the item a repetition would apply to, and `lastRepeat` the text from a repetition that
was just read, which another one may not follow. -/
def concatenation (whole : List Char) : Nat → Flags → List Char → Re → Option Re →
    Option (List Char) → Except String Parsed
  | 0, fl, t, acc, last, _ => .ok ⟨finish acc last, fl, t⟩
  | fuel + 1, fl, t, acc, last, lastRepeat =>
    let push (item : Re) (rest : List Char) : Except String Parsed :=
      concatenation whole fuel fl rest (finish acc last) (some item) none
    let repeatWith (before after0 : List Char) (make : Re → Re) (checkCount : Bool) :
        Except String Parsed :=
      let after := match after0 with
        | '?' :: a => a
        | a => a
      match lastRepeat with
      | some lr => .error (refusal "invalid nested repetition operator" (consumed lr after))
      | none =>
        match last with
        | none => .error (refusal "missing argument to repetition operator" (consumed before after))
        | some item =>
          let r := make item
          if checkCount && !validCount r 1000 then
            .error (refusal "invalid repeat count" (consumed before after))
          else concatenation whole fuel fl after acc (some r) (some before)
    match t with
    | [] => .ok ⟨finish acc last, fl, t⟩
    | '|' :: _ => .ok ⟨finish acc last, fl, t⟩
    | ')' :: _ => .ok ⟨finish acc last, fl, t⟩
    | '(' :: '?' :: rest =>
      let named : Option Nat :=
        match rest with
        | 'P' :: '<' :: _ :: _ => some 4
        | '<' :: _ :: _ => some 3
        | _ => none
      match named with
      | some begin =>
        match t.findIdx? (· == '>') with
        | none => .error (refusal "invalid named capture" t)
        | some stop =>
          let name := (t.take stop).drop begin
          if !validName name then .error (refusal "invalid named capture" (t.take (stop + 1)))
          else do
            let inner ← alternation whole fuel fl (t.drop (stop + 1))
            match inner.rest with
            | ')' :: after => push (.group inner.re) after
            | _ => .error (refusal "missing closing )" whole)
      | none => do
        let ((fl', opens), rest') ← flagGroup t fl
        if opens then
          let inner ← alternation whole fuel fl' rest'
          match inner.rest with
          | ')' :: after => push inner.re after
          | _ => .error (refusal "missing closing )" whole)
        else concatenation whole fuel fl' rest' acc last none
    | '(' :: rest => do
      let inner ← alternation whole fuel fl rest
      match inner.rest with
      | ')' :: after => push (.group inner.re) after
      | _ => .error (refusal "missing closing )" whole)
    | '[' :: _ => do
      let (a, rest) ← charClass t fl.fold
      push (.atom a) rest
    | '*' :: rest => repeatWith t rest .star false
    | '+' :: rest => repeatWith t rest .plus false
    | '?' :: rest => repeatWith t rest .quest false
    | '{' :: rest =>
      match braces t with
      | none => push (.atom (.lit 123 fl.fold)) rest
      | some (lo, hi, after) =>
        if lo < 0 || lo > 1000 || hi > 1000 || (hi ≥ 0 && lo > hi) then
          .error (refusal "invalid repeat count" (consumed t after))
        else
          repeatWith t after (fun r => .rep r lo.toNat (if hi < 0 then none else some hi.toNat))
            (lo ≥ 2 || hi ≥ 2)
    | '.' :: rest => push (.atom (.any fl.dotNL)) rest
    | '^' :: rest => push (.assert (if fl.oneLine then .beginText else .beginLine)) rest
    | '$' :: rest => push (.assert (if fl.oneLine then .endText else .endLine)) rest
    | '\\' :: rest =>
      match rest with
      | 'A' :: r => push (.assert .beginText) r
      | 'b' :: r => push (.assert .wordBoundary) r
      | 'B' :: r => push (.assert .notWordBoundary) r
      | 'z' :: r => push (.assert .endText) r
      | 'C' :: _ => .error (refusal "invalid escape sequence" (t.take 2))
      | 'Q' :: r =>
        let (lits, after) := quotedRun r
        match lits.reverse with
        | [] => concatenation whole fuel fl after acc last none
        | final :: earlier =>
          let done := earlier.reverse.foldl (fun a c => seq a (.atom (.lit c.toNat fl.fold))) (finish acc last)
          concatenation whole fuel fl after done (some (.atom (.lit final.toNat fl.fold))) none
      | _ =>
        match unicodeClass t with
        | .error e => .error e
        | .ok (some (m, r)) => push (.atom (.cls [m] false fl.fold)) r
        | .ok none =>
          match perlMembers t with
          | some (ms, r) => push (.atom (.cls ms false fl.fold)) r
          | none =>
            match escape t with
            | .error e => .error e
            | .ok (c, r) => push (.atom (.lit c fl.fold)) r
    | c :: rest => push (.atom (.lit c.toNat fl.fold)) rest

end

def Re.isCharTest : Re → Bool
  | .atom _ => true
  | .alt a b => a.isCharTest && b.isCharTest
  | _ => false

/-- The height of the tree the expression is read into, with the greatest height among the
items of a concatenation and among the alternatives of an alternation. Concatenations and
alternations are one node over all their items, a capturing group or a repetition is a node
over its body, and alternatives of single characters are read as one class. -/
def Re.measure : Re → Nat × Nat × Nat
  | .empty | .atom _ | .assert _ => (1, 1, 1)
  | .group r | .star r | .plus r | .quest r | .rep r _ _ =>
    let h := r.measure.1 + 1
    (h, h, h)
  | .cat a b =>
    let m := max a.measure.2.1 b.measure.2.1
    (m + 1, m, m + 1)
  | .alt a b =>
    if (Re.alt a b).isCharTest then (1, 1, 1)
    else
      let m := max a.measure.2.2 b.measure.2.2
      (m + 1, m + 1, m)

def Re.height (r : Re) : Nat := r.measure.1

def maxHeight : Nat := 1000

def parse (pattern : List Char) : Except String Re := do
  let p ← alternation pattern (2 * pattern.length + 4) {} pattern
  match p.rest with
  | [] =>
    if p.re.height > maxHeight then .error (refusal "expression nests too deeply" pattern)
    else return p.re
  | _ => .error (refusal "unexpected )" pattern)

/-! ### Running an expression -/

/-- An instruction of a compiled expression: test a character and go on, fork, jump, check
an assertion and go on, or accept. -/
inductive Inst where
  | test (a : Atom)
  | fork (x y : Nat)
  | jump (x : Nat)
  | check (a : Anchor)
  | done
deriving Repr, Inhabited

def Re.size : Re → Nat
  | .empty => 0
  | .atom _ | .assert _ => 1
  | .cat a b => a.size + b.size
  | .alt a b => a.size + b.size + 2
  | .star r => r.size + 2
  | .plus r => r.size + 1
  | .quest r => r.size + 1
  | .rep r lo hi =>
    match hi with
    | none => lo * r.size + r.size + 2
    | some h => lo * r.size + (h - lo) * (r.size + 1)
  | .group r => r.size

/-- The instructions of an expression placed at `pc`. A count `{lo,hi}` is written out: `lo`
copies, then `hi - lo` optional copies that each may skip to the end. -/
def Re.emit : Re → Nat → List Inst
  | .empty, _ => []
  | .atom a, _ => [.test a]
  | .assert a, _ => [.check a]
  | .cat a b, pc => a.emit pc ++ b.emit (pc + a.size)
  | .alt a b, pc =>
    [.fork (pc + 1) (pc + 2 + a.size)] ++ a.emit (pc + 1) ++ [.jump (pc + 2 + a.size + b.size)] ++
      b.emit (pc + 2 + a.size)
  | .star r, pc => [.fork (pc + 1) (pc + 2 + r.size)] ++ r.emit (pc + 1) ++ [.jump pc]
  | .plus r, pc => r.emit pc ++ [.fork pc (pc + r.size + 1)]
  | .quest r, pc => [.fork (pc + 1) (pc + 1 + r.size)] ++ r.emit (pc + 1)
  | .rep r lo hi, pc =>
    let k := r.size
    let fixed := (List.range lo).flatMap fun i => r.emit (pc + i * k)
    let q := pc + lo * k
    match hi with
    | none => fixed ++ [.fork (q + 1) (q + 2 + k)] ++ r.emit (q + 1) ++ [.jump q]
    | some h =>
      let stop := q + (h - lo) * (k + 1)
      fixed ++ (List.range (h - lo)).flatMap fun j =>
        let base := q + j * (k + 1)
        [.fork (base + 1) stop] ++ r.emit (base + 1)
  | .group r, pc => r.emit pc

structure Program where
  insts : Array Inst

def wordAt (text : Array Nat) (i : Nat) : Bool :=
  if h : i < text.size then inRanges wordRanges text[i] else false

def Anchor.holds (a : Anchor) (text : Array Nat) (pos : Nat) : Bool :=
  match a with
  | .beginText => pos == 0
  | .endText => pos == text.size
  | .beginLine => pos == 0 || text[pos - 1]? == some 10
  | .endLine => pos == text.size || text[pos]? == some 10
  | .wordBoundary => (pos > 0 && wordAt text (pos - 1)) != wordAt text pos
  | .notWordBoundary => (pos > 0 && wordAt text (pos - 1)) == wordAt text pos

def Program.addThread (p : Program) (text : Array Nat) (pos : Nat) : Nat → Nat → List Nat → List Nat
  | 0, _, seen => seen
  | fuel + 1, pc, seen =>
    if seen.contains pc then seen
    else match p.insts[pc]? with
      | some (.fork x y) => p.addThread text pos fuel y (p.addThread text pos fuel x (pc :: seen))
      | some (.jump x) => p.addThread text pos fuel x (pc :: seen)
      | some (.check a) =>
        if a.holds text pos then p.addThread text pos fuel (pc + 1) (pc :: seen) else pc :: seen
      | _ => pc :: seen

def Program.accepts (p : Program) (pc : Nat) : Bool :=
  match p.insts[pc]? with
  | some .done => true
  | _ => false

/-- Runs the threads from position `pos` on; a new thread starts at every position. -/
def Program.run (p : Program) (text : Array Nat) : Nat → Nat → List Nat → Bool
  | 0, _, _ => false
  | fuel + 1, pos, pending =>
    let threads := (pending ++ [0]).foldl (fun seen pc => p.addThread text pos (p.insts.size + 1) pc seen) []
    if threads.any p.accepts then true
    else if h : pos < text.size then
      let c := text[pos]
      let next := threads.filterMap fun pc =>
        match (p.insts[pc]? : Option Inst) with
        | some (.test a) => if a.accepts c then some (pc + 1) else none
        | _ => none
      p.run text fuel (pos + 1) next
    else false

/-- Compiles an expression, or the message of the refusal. -/
def compile (pattern : Bytes) : Except String Program := do
  let pieces := Utf8.decode pattern
  if pieces.any (fun p => match p with | .stray _ => true | .char _ => false) then
    .error (refusal "invalid UTF-8" (Utf8.toText pattern).toList)
  let re ← parse (pieces.map Utf8Piece.shown)
  return ⟨((re.emit 0) ++ [Inst.done]).toArray⟩

def Program.search (p : Program) (text : Bytes) : Bool :=
  let cs := ((Utf8.decode text).map fun piece => piece.shown.toNat).toArray
  p.run cs (cs.size + 2) 0 []

end Pattern

end ProcessTitle
