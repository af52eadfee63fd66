/-!
# Powers of doubles

The integer part of the exponent is applied by repeated squaring, rounding after every
product, and the fractional part through `exp (f · log x)`.
-/

namespace ProcessTitle

namespace Numeric

def nan : Float := 0 / 0

def inf : Float := 1 / 0

def signBit (x : Float) : Bool := x.toBits >>> 63 == 1

/-- Whether a double is an odd integer; doubles of magnitude `2^53` and more count as even. -/
def isOddInt (x : Float) : Bool :=
  if x.abs ≥ 9007199254740992 then false
  else x.abs.floor == x.abs && x.abs.toUInt64 % 2 == 1

/-- The integer power by squaring: multiplies `a1 · 2^ae` by `x1 · 2^xe` raised to `i`,
keeping the mantissas in `[1/2, 1)`; once the exponent of the square leaves `±2^12` the rest
is left to the final scaling. -/
def squareLoop : Nat → Nat → Float → Int → Float → Int → Float × Int
  | 0, _, _, _, a1, ae => (a1, ae)
  | fuel + 1, i, x1, xe, a1, ae =>
    if i == 0 then (a1, ae)
    else if xe < -4096 || 4096 < xe then (a1, ae + xe)
    else
      let (a1, ae) := if i % 2 == 1 then (a1 * x1, ae + xe) else (a1, ae)
      let x1 := x1 * x1
      let xe := 2 * xe
      let (x1, xe) := if x1 < 0.5 then (x1 + x1, xe - 1) else (x1, xe)
      squareLoop fuel (i / 2) x1 xe a1 ae

/-- The power of a zero base `x` (of either sign) to a non-zero exponent `y`. -/
def powOfZero (x y : Float) : Float :=
  if y < 0 then (if signBit x && isOddInt y then -inf else inf)
  else if signBit x && isOddInt y then x else 0

/-- The power of an infinite exponent: one for a base of `-1`, zero when the base's magnitude
is on the vanishing side, infinity otherwise. -/
def powOfLarge (x y : Float) : Float :=
  if x == -1 then 1
  else if (x.abs < 1) == (y > 0) then 0
  else inf

def pow (x y : Float) : Float :=
  if y == 0 || x == 1 then 1
  else if y == 1 then x
  else if x.isNaN || y.isNaN then nan
  else if x == 0 then powOfZero x y
  else if y.isInf then powOfLarge x y
  else if x.isInf then
    if x < 0 then powOfZero (-0.0) (-y)
    else if y < 0 then 0 else inf
  else if y == 0.5 then x.sqrt
  else if y == -0.5 then 1 / x.sqrt
  else
    let yi := y.abs.floor
    let yf := y.abs - yi
    if yf != 0 && x < 0 then nan
    else if yi ≥ 9223372036854775808 then powOfLarge x y
    else
      let (yi, a1) :=
        if yf == 0 then (yi, 1)
        else if yf > 0.5 then (yi + 1, Float.exp ((yf - 1) * Float.log x))
        else (yi, Float.exp (yf * Float.log x))
      let (x1, xe) := x.frExp
      let (a1, ae) := squareLoop 65 yi.toUInt64.toNat x1 xe a1 0
      if y < 0 then Float.scaleB (1 / a1) (-ae) else Float.scaleB a1 ae

end Numeric

end ProcessTitle
