import ProcessTitle.Text.Bytes

/-!
# Durations
-/

namespace ProcessTitle

namespace Duration

def unit? (u : Bytes) : Option Nat :=
  if u == Bytes.ofString "ns" then some 1
  else if u == Bytes.ofString "us" || u == Bytes.ofString "µs" || u == Bytes.ofString "μs" then
    some 1000
  else if u == Bytes.ofString "ms" then some 1000000
  else if u == Bytes.ofString "s" then some 1000000000
  else if u == Bytes.ofString "m" then some 60000000000
  else if u == Bytes.ofString "h" then some 3600000000000
  else none

def isDigit (c : UInt8) : Bool := 48 ≤ c && c ≤ 57

def limit : Nat := Nat.pow 2 63

/-- Leading digits as a number; `none` when it passes `2^63`. -/
def leadingInt (s : Bytes) : Option (Nat × Bytes) :=
  go s 0
where
  go : Bytes → Nat → Option (Nat × Bytes)
    | c :: rest, x =>
      if isDigit c then
        if x > limit / 10 then none
        else
          let y := x * 10 + (c.toNat - 48)
          if y > limit then none else go rest y
      else some (x, c :: rest)
    | [], x => some (x, [])

/-- Leading fraction digits: their value and scale, up to the precision that fits. -/
def leadingFraction (s : Bytes) : Nat × Float × Bytes :=
  go s 0 1 false
where
  go : Bytes → Nat → Float → Bool → Nat × Float × Bytes
    | c :: rest, x, scale, spilled =>
      if isDigit c then
        if spilled then go rest x scale true
        else if x > (limit - 1) / 10 then go rest x scale true
        else
          let y := x * 10 + (c.toNat - 48)
          if y > limit then go rest x scale true else go rest y (scale * 10) false
      else (x, scale, c :: rest)
    | [], x, scale, _ => (x, scale, [])

/-- The escaped text of a duration in messages: in double quotes, with every byte that is
not printable ASCII written as `\xHH`. -/
def quote (s : Bytes) : String :=
  let hex (n : Nat) : Char := if n < 10 then Char.ofNat (48 + n) else Char.ofNat (87 + n)
  let body := s.foldl (fun acc b =>
    if b < 32 || b ≥ 128 then acc ++ "\\x" ++ (hex (b.toNat / 16)).toString ++ (hex (b.toNat % 16)).toString
    else if b == 34 || b == 92 then acc ++ "\\" ++ (Char.ofNat b.toNat).toString
    else acc.push (Char.ofNat b.toNat)) ""
  "\"" ++ body ++ "\""

/-- Reads the numbers and units of `s` into `d` nanoseconds; `orig` is the whole text for
messages. -/
def terms (orig : Bytes) : Nat → Bytes → Nat → Except String Nat
  | 0, _, d => .ok d
  | _ + 1, [], d => .ok d
  | fuel + 1, s@(c :: _), d =>
    let invalid : Except String Nat := .error ("time: invalid duration " ++ quote orig)
    if !(c == 46 || isDigit c) then invalid
    else
      match leadingInt s with
      | none => invalid
      | some (v, s1) =>
        let pre := s1.length != s.length
        let (f, scale, s2, post) : Nat × Float × Bytes × Bool :=
          match s1 with
          | 46 :: r =>
            let (f, scale, r') := leadingFraction r
            (f, scale, r', r'.length != r.length)
          | _ => (0, 1, s1, false)
        if !pre && !post then invalid
        else
          let u := s2.takeWhile fun b => !(b == 46 || isDigit b)
          let rest := s2.drop u.length
          if u.isEmpty then .error ("time: missing unit in duration " ++ quote orig)
          else
            match unit? u with
            | none => .error ("time: unknown unit " ++ quote u ++ " in duration " ++ quote orig)
            | some unit =>
              if v > limit / unit then invalid
              else
                let v1 := v * unit
                let v2 := if f > 0 then
                    v1 + (Float.ofNat f * (Float.ofNat unit / scale)).toUInt64.toNat
                  else v1
                if v2 > limit then invalid
                else
                  let d' := d + v2
                  if d' > limit then invalid else terms orig fuel rest d'

def parse (orig : Bytes) : Except String Int :=
  let (neg, s) : Bool × Bytes :=
    match orig with
    | 45 :: r => (true, r)
    | 43 :: r => (false, r)
    | _ => (false, orig)
  if s == [48] then .ok 0
  else if s.isEmpty then .error ("time: invalid duration " ++ quote orig)
  else
    match terms orig (s.length + 1) s 0 with
    | .error e => .error e
    | .ok d =>
      if neg then .ok (-(d : Int))
      else if d > limit - 1 then .error ("time: invalid duration " ++ quote orig)
      else .ok d

example : (parse (Bytes.ofString "1h30m")).toOption = some 5400000000000 := by decide +kernel

end Duration

end ProcessTitle
