import ProcessTitle.Text.Bytes

/-!
# Base64

A decoding failure names the offset of the input byte to blame.
-/

namespace ProcessTitle

namespace Base64

def digit (v : Nat) : UInt8 :=
  if v < 26 then (65 + v).toUInt8
  else if v < 52 then (71 + v).toUInt8
  else if v < 62 then (v - 4).toUInt8
  else if v == 62 then 43 else 47

def value? (c : UInt8) : Option Nat :=
  if 65 ≤ c && c ≤ 90 then some (c.toNat - 65)
  else if 97 ≤ c && c ≤ 122 then some (c.toNat - 71)
  else if 48 ≤ c && c ≤ 57 then some (c.toNat + 4)
  else if c == 43 then some 62
  else if c == 47 then some 63
  else none

def pad : UInt8 := 61

def encode : Bytes → Bytes
  | a :: b :: c :: rest =>
    let n := a.toNat * 65536 + b.toNat * 256 + c.toNat
    [digit (n / 262144), digit (n / 4096 % 64), digit (n / 64 % 64), digit (n % 64)] ++ encode rest
  | [a, b] =>
    let n := a.toNat * 65536 + b.toNat * 256
    [digit (n / 262144), digit (n / 4096 % 64), digit (n / 64 % 64), pad]
  | [a] =>
    let n := a.toNat * 65536
    [digit (n / 262144), digit (n / 4096 % 64), pad, pad]
  | [] => []

def isBreak (c : UInt8) : Bool := c == 10 || c == 13

def skipBreaks (src : Array UInt8) (i : Nat) : Nat :=
  go (src.size - i) i
where
  go : Nat → Nat → Nat
    | 0, i => i
    | fuel + 1, i => if h : i < src.size then (if isBreak src[i] then go fuel (i + 1) else i) else i

/-- What reading one quantum gives: its six-bit values, the offset after it, and the offset of
trailing garbage after padding, if any. -/
structure Quantum where
  values : List Nat
  next : Nat
  garbage : Option Nat

/-- Reads a quantum from offset `si`, with `got` the values read so far; a failure is the
offset to blame. -/
def quantum (src : Array UInt8) : Nat → Nat → List Nat → Except Nat Quantum
  | 0, si, got => .ok ⟨got, si, none⟩
  | fuel + 1, si, got =>
    let j := got.length
    if j == 4 then .ok ⟨got, si, none⟩
    else if h : si < src.size then
      let c := src[si]
      match value? c with
      | some v => quantum src fuel (si + 1) (got ++ [v])
      | none =>
        if isBreak c then quantum src fuel (si + 1) got
        else if c != pad then .error si
        else if j < 2 then .error si
        else
          let afterPad : Except Nat Nat :=
            if j == 2 then
              let s2 := skipBreaks src (si + 1)
              if h2 : s2 < src.size then
                if src[s2] != pad then .error (s2 - 1) else .ok (s2 + 1)
              else .error src.size
            else .ok (si + 1)
          match afterPad with
          | .error e => .error e
          | .ok s3 =>
            let s4 := skipBreaks src s3
            .ok ⟨got, s4, if s4 < src.size then some s4 else none⟩
    else if j == 0 then .ok ⟨[], si, none⟩
    else .error (si - j)

def quantumBytes (vs : List Nat) : Bytes :=
  let v (i : Nat) : Nat := vs.getD i 0
  let n := v 0 * 262144 + v 1 * 4096 + v 2 * 64 + v 3
  let all : Bytes := [(n / 65536).toUInt8, (n / 256 % 256).toUInt8, (n % 256).toUInt8]
  all.take (vs.length - 1)

def decodeFrom (src : Array UInt8) : Nat → Nat → Bytes → Except Nat Bytes
  | 0, _, out => .ok out
  | fuel + 1, si, out =>
    if si ≥ src.size then .ok out
    else
      match quantum src (src.size + 4) si [] with
      | .error e => .error e
      | .ok q =>
        let out' := out ++ quantumBytes q.values
        match q.garbage with
        | some e => .error e
        | none => if q.values.isEmpty then .ok out' else decodeFrom src fuel q.next out'

/-- Decodes base64 text; a failure is the offset of the input byte to blame. -/
def decode (s : Bytes) : Except Nat Bytes :=
  let src := s.toArray
  decodeFrom src (src.size + 1) 0 []

def failure (offset : Nat) : String := "illegal base64 data at input byte " ++ toString offset

example : encode (Bytes.ofString "/usr/bin/app") = Bytes.ofString "L3Vzci9iaW4vYXBw" := by
  decide +kernel

example : (match decode (Bytes.ofString "!!") with | .error n => n == 0 | .ok _ => false) = true := by
  decide +kernel

end Base64

end ProcessTitle
