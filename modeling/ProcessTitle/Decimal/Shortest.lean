/-!
The shortest decimal text of a double: the first grid of 1 to 17 significant digits with a point
in the double's rounding interval, found in exact arithmetic.
-/

namespace ProcessTitle

namespace Decimal

/-- A positive double as `mantissa · 2^exponent`, and whether its lower neighbour is closer
(the mantissa is a power of two above the smallest normal exponent). -/
structure Binary where
  mantissa : Nat
  exponent : Int
  closeBelow : Bool
deriving Repr

def Binary.ofFloat (x : Float) : Binary :=
  let bits := x.toBits.toNat
  let frac := bits % Nat.pow 2 52
  let e : Nat := (bits / Nat.pow 2 52) % 2048
  if e == 0 then ⟨frac, -1074, false⟩
  else ⟨frac + Nat.pow 2 52, (e : Int) - 1075, frac == 0 && e > 1⟩

def cmpScaled (a : Nat) (i j : Int) (b : Nat) (i' j' : Int) : Ordering :=
  let i0 := min i i'
  let j0 := min j j'
  let l := a * Nat.pow 2 (i - i0).toNat * Nat.pow 10 (j - j0).toNat
  let r := b * Nat.pow 2 (i' - i0).toNat * Nat.pow 10 (j' - j0).toNat
  compare l r

/-- Significant digits and where the point goes: the value is `0.d₁d₂…dₙ · 10^point`. -/
structure Digits where
  digits : List Nat
  point : Int
deriving Repr, DecidableEq

def Binary.decExp (b : Binary) : Int :=
  if b.exponent ≥ 0 then
    ((toString (b.mantissa * Nat.pow 2 b.exponent.toNat)).length : Int) - 1
  else
    let den := Nat.pow 2 (-b.exponent).toNat
    let whole := b.mantissa / den
    if whole ≥ 1 then ((toString whole).length : Int) - 1
    else
      -- the least s with m · 10^s ≥ 2^-q
      let s := ((List.range 340).find? fun s => b.mantissa * Nat.pow 10 s ≥ den).getD 340
      Int.neg s

def digitsOf (n : Nat) : List Nat := (toString n).toList.map fun c => c.toNat - 48

def trimZeros (ds : List Nat) : List Nat :=
  let r := (ds.reverse.dropWhile (· == 0)).reverse
  if r.isEmpty then [0] else r

/-- The shortest digits of a positive finite double that read back as it. -/
def shortest (x : Float) : Digits :=
  let b := Binary.ofFloat x
  let m := b.mantissa
  let q := b.exponent
  -- scaled by 2^(q-2): value 4m, interval [4m - g, 4m + 2]
  let g := if b.closeBelow then 1 else 2
  let inclusive := m % 2 == 0
  let lo := 4 * m - g
  let hi := 4 * m + 2
  let e := b.decExp
  let inside (d : Nat) (k : Int) : Bool :=
    let cl := cmpScaled d 0 k lo (q - 2) 0
    let ch := cmpScaled d 0 k hi (q - 2) 0
    (cl == .gt || (inclusive && cl == .eq)) && (ch == .lt || (inclusive && ch == .eq))
  let attempt (n : Nat) : Option Digits :=
    let k : Int := e - n + 1
    -- d = floor(x / 10^k) = floor(m · 2^q / 10^k)
    let num := m * Nat.pow 2 (max q 0).toNat * Nat.pow 10 (max (-k) 0).toNat
    let den := Nat.pow 2 (max (-q) 0).toNat * Nat.pow 10 (max k 0).toNat
    let dLow := num / den
    let dHigh := dLow + 1
    let okLow := inside dLow k
    let okHigh := inside dHigh k
    let pick (d : Nat) : Digits :=
      let ds := digitsOf d
      ⟨trimZeros ds, k + ds.length⟩
    if okLow && okHigh then
      -- the nearer of the two; on a tie the even one
      let twice := 2 * num
      let c := compare (twice - 2 * dLow * den) (2 * dHigh * den - twice)
      if c == .lt then some (pick dLow)
      else if c == .gt then some (pick dHigh)
      else some (pick (if dLow % 2 == 0 then dLow else dHigh))
    else if okLow then some (pick dLow)
    else if okHigh then some (pick dHigh)
    else none
  ((List.range 17).findSome? fun i => attempt (i + 1)).getD ⟨digitsOf m, 0⟩

/-- How a double is written: positionally when its decimal exponent lies in
`[positionalFrom, positionalBelow)`, otherwise as `d.ddde±XX` with at least `expDigits`
exponent digits; and the texts of infinities and NaN. -/
structure FloatStyle where
  positionalFrom : Int
  positionalBelow : Int
  expDigits : Nat
  posInf : String
  negInf : String
  nan : String

def positional (d : Digits) : String :=
  let n := d.digits.length
  let ds := String.ofList (d.digits.map fun k => Char.ofNat (48 + k))
  if d.point ≤ 0 then
    "0." ++ String.ofList (List.replicate (-d.point).toNat '0') ++ ds
  else if d.point.toNat ≥ n then
    ds ++ String.ofList (List.replicate (d.point.toNat - n) '0')
  else
    String.ofList (ds.toList.take d.point.toNat) ++ "." ++ String.ofList (ds.toList.drop d.point.toNat)

def scientific (style : FloatStyle) (d : Digits) : String :=
  let ds := d.digits.map fun k => Char.ofNat (48 + k)
  let mant := match ds with
    | [] => "0"
    | [c] => c.toString
    | c :: rest => c.toString ++ "." ++ String.ofList rest
  let ex := d.point - 1
  let exDigits := toString ex.natAbs
  let padded := String.ofList (List.replicate (style.expDigits - exDigits.length) '0') ++ exDigits
  mant ++ "e" ++ (if ex < 0 then "-" else "+") ++ padded

def render (style : FloatStyle) (x : Float) : String :=
  if x.isNaN then style.nan
  else if x.isInf then (if x > 0 then style.posInf else style.negInf)
  else
    let neg := x < 0 || (x == 0 && (1 / x) < 0)
    let sign := if neg then "-" else ""
    if x == 0 then sign ++ "0"
    else
      let d := shortest (if neg then -x else x)
      let ex := d.point - 1
      if style.positionalFrom ≤ ex && ex < style.positionalBelow then sign ++ positional d
      else sign ++ scientific style d

/-- The general style of printed values: positional for exponents -4 to 5, so a million is
written `1e+06`. -/
def FloatStyle.general : FloatStyle := ⟨-4, 6, 2, "+Inf", "-Inf", "NaN"⟩

/-- JSON numbers: positional for exponents -6 to 20, exponents without padding. -/
def FloatStyle.json : FloatStyle := ⟨-6, 21, 1, "+Inf", "-Inf", "NaN"⟩

end Decimal

end ProcessTitle
