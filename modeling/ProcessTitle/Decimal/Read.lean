/-!
Reading integer and double numerals; doubles are rounded to the nearest, a tie to the even one.
-/

namespace ProcessTitle

namespace Decimal

inductive ReadFailure where
  | malformed
  | range
deriving DecidableEq, Repr

def ReadFailure.text : ReadFailure → String
  | .malformed => "invalid syntax"
  | .range => "value out of range"

def digitOf (c : Char) : Option Nat :=
  if '0' ≤ c && c ≤ '9' then some (c.toNat - 48)
  else if 'a' ≤ c && c ≤ 'z' then some (c.toNat - 87)
  else if 'A' ≤ c && c ≤ 'Z' then some (c.toNat - 55)
  else none

def digitsValue (b : Nat) (cs : List Char) : Option Nat :=
  if cs.isEmpty then none
  else cs.foldlM (fun acc c => match digitOf c with
    | some d => if d < b then some (acc * b + d) else none
    | none => none) 0

def maxInt64 : Nat := Nat.pow 2 63 - 1

/-- Reads an unsigned numeral; base 0 reads the base from its prefix. -/
def readNat (base : Nat) (cs : List Char) : Except ReadFailure Nat :=
  let (b, ds) : Nat × List Char :=
    if base != 0 then (base, cs)
    else match cs with
      | '0' :: c :: r =>
        if c == 'x' || c == 'X' then (16, r)
        else if c == 'o' || c == 'O' then (8, r)
        else if c == 'b' || c == 'B' then (2, r)
        else (8, c :: r)
      | _ => (10, cs)
  match digitsValue b ds with
  | some n => .ok n
  | none => .error .malformed

/-- Reads a signed numeral into the 64-bit signed range. -/
def readInt (base : Nat) (s : String) : Except ReadFailure Int :=
  let cs := s.toList
  let (neg, body) : Bool × List Char :=
    match cs with
    | '-' :: r => (true, r)
    | '+' :: r => (false, r)
    | _ => (false, cs)
  match readNat base body with
  | .error e => .error e
  | .ok n =>
    if neg then (if n ≤ maxInt64 + 1 then .ok (-(n : Int)) else .error .range)
    else if n ≤ maxInt64 then .ok n else .error .range

/-- The double nearest to `num / den`, a tie going to the even one, for positive `den`; it is
infinite when the quotient is too large for a double. The quotient is scaled by a power of two
so that its integer part has 53 bits (fewer for the smallest doubles), rounded there, and
scaled back, which is exact. -/
def nearestRatio (num den : Nat) : Float :=
  if num == 0 then 0
  else
    let lg : Int := (num.log2 : Int) - (den.log2 : Int)
    let atLeast (k : Int) : Bool :=
      if k ≥ 0 then num ≥ den * Nat.pow 2 k.toNat else num * Nat.pow 2 (-k).toNat ≥ den
    let top := if atLeast lg then lg else lg - 1
    if top > 1023 then Float.ofScientific 1 false 400
    else
      let e := max (top - 52) (-1074)
      let (n, d) := if e ≥ 0 then (num, den * Nat.pow 2 e.toNat) else (num * Nat.pow 2 (-e).toNat, den)
      let q := n / d
      let r := n % d
      let q := if 2 * r > d || (2 * r == d && q % 2 == 1) then q + 1 else q
      Float.scaleB (Float.ofNat q) e

/-- The double nearest to `m · base^e`; numbers far outside the range of doubles are settled by
their digit count alone. -/
def nearestScaled (m base : Nat) (e : Int) : Float :=
  if m == 0 then 0
  else
    let size : Int := if base == 10 then (toString m).length else m.log2 + 1
    let (highest, lowest) : Int × Int := if base == 10 then (330, -400) else (1100, -1200)
    if size + e > highest then Float.ofScientific 1 false 400
    else if size + e < lowest then 0
    else if e ≥ 0 then nearestRatio (m * Nat.pow base e.toNat) 1
    else nearestRatio m (Nat.pow base (-e).toNat)

/-- Whether the underscores of a numeral stand only between digits, or between a base prefix
and a digit. -/
def underscoresFit (cs : List Char) : Bool :=
  let body := match cs with
    | '-' :: r | '+' :: r => r
    | _ => cs
  let (hex, start, saw) : Bool × List Char × Char :=
    match body with
    | '0' :: p :: r =>
      let p := p.toLower
      if p == 'b' || p == 'o' || p == 'x' then (p == 'x', r, '0') else (false, body, '^')
    | _ => (false, body, '^')
  let step (saw : Option Char) (c : Char) : Option Char :=
    match saw with
    | none => none
    | some s =>
      if c.isDigit || (hex && 'a' ≤ c.toLower && c.toLower ≤ 'f') then some '0'
      else if c == '_' then (if s == '0' then some '_' else none)
      else if s == '_' then none
      else some '!'
  match start.foldl step (some saw) with
  | some s => s != '_'
  | none => false

/-- The digits of a mantissa as read so far: their value, how many follow the point, whether
a point was seen and whether any digit was. -/
structure Mantissa where
  value : Nat := 0
  fraction : Nat := 0
  point : Bool := false
  digits : Bool := false

/-- Reads mantissa characters: digits of `base`, underscores, and one point. Gives the
mantissa, whether an underscore was met, and the rest. -/
def readMantissa (base : Nat) : List Char → Mantissa → Bool → Mantissa × Bool × List Char
  | [], m, u => (m, u, [])
  | c :: r, m, u =>
    if c == '_' then readMantissa base r m true
    else if c == '.' then
      if m.point then (m, u, c :: r) else readMantissa base r { m with point := true } u
    else
      match digitOf c with
      | some d =>
        if d < base && (d < 10 || base == 16) then
          readMantissa base r
            { m with value := m.value * base + d, digits := true,
                     fraction := if m.point then m.fraction + 1 else m.fraction } u
        else (m, u, c :: r)
      | none => (m, u, c :: r)

/-- Reads exponent digits and underscores; the value stops growing once it passes ten
thousand, which is already far out of range. -/
def readExponent : List Char → Nat → Bool → Nat × Bool × List Char
  | [], e, u => (e, u, [])
  | c :: r, e, u =>
    if c == '_' then readExponent r e true
    else if c.isDigit then readExponent r (if e < 10000 then e * 10 + (c.toNat - 48) else e) u
    else (e, u, c :: r)

/-- Reads the numeral at the start of `cs` after its sign: decimal digits with an optional
point and an optional exponent `e`, or `0x` and hexadecimal digits with a point and a binary
exponent `p`, which is then required. Gives the magnitude and what follows; `none` when no
numeral starts there. -/
def readMagnitude (cs : List Char) : Option (Float × List Char) :=
  let (hex, body) : Bool × List Char :=
    match cs with
    | '0' :: x :: c :: r => if x.toLower == 'x' then (true, c :: r) else (false, cs)
    | _ => (false, cs)
  let base := if hex then 16 else 10
  let (m, u1, rest) := readMantissa base body {} false
  if !m.digits then none
  else
    let expChar := if hex then 'p' else 'e'
    let expPart : Option (Int × Bool × List Char) :=
      match rest with
      | c :: r =>
        if c.toLower == expChar then
          let (neg, ds) : Bool × List Char :=
            match r with
            | '+' :: d => (false, d)
            | '-' :: d => (true, d)
            | _ => (false, r)
          match ds with
          | d :: _ =>
            if d.isDigit then
              let (e, u2, r') := readExponent ds 0 false
              some (if neg then -(e : Int) else e, u2, r')
            else none
          | [] => none
        else if hex then none else some (0, false, rest)
      | [] => if hex then none else some (0, false, [])
    match expPart with
    | none => none
    | some (e, u2, after) =>
      let consumed := cs.take (cs.length - after.length)
      if (u1 || u2) && !underscoresFit consumed then none
      else
        let x := if hex then nearestScaled m.value 2 (e - 4 * m.fraction)
          else nearestScaled m.value 10 (e - m.fraction)
        some (x, after)

def agreeing (cs : List Char) (word : String) : Nat :=
  ((cs.zip word.toList).takeWhile fun (c, w) => c.toLower == w).length

/-- Reads a double. An optional sign comes first; then `inf` or `infinity` in any case, `nan`
in any case without a sign, or a numeral of `readMagnitude`. Underscores may separate digits.
The whole text must be read; a finite numeral too large for a double is out of range, while
one too small reads as zero. -/
def readFloat (s : String) : Except ReadFailure Float :=
  let cs := s.toList
  let (neg, signed, body) : Bool × Bool × List Char :=
    match cs with
    | '-' :: r => (true, true, r)
    | '+' :: r => (false, true, r)
    | _ => (false, false, cs)
  let infinity := Float.ofScientific 1 false 400
  let inf := agreeing body "infinity"
  let inf := if 3 < inf && inf < 8 then 3 else inf
  if inf == 3 || inf == 8 then
    if body.length == inf then .ok (if neg then -infinity else infinity) else .error .malformed
  else if !signed && agreeing body "nan" == 3 then
    if body.length == 3 then .ok (0.0 / 0.0) else .error .malformed
  else
    match readMagnitude body with
    | none => .error .malformed
    | some (x, rest) =>
      if !rest.isEmpty then .error .malformed
      else if x.isInf then .error .range
      else .ok (if neg then -x else x)

end Decimal

end ProcessTitle
