import ProcessTitle.Text.Utf8

/-!
# Splitting, replacing and trimming byte strings
-/

namespace ProcessTitle

namespace Bytes

/-- The number of non-overlapping occurrences of `sep`, scanning left to right; for an
empty `sep`, one more than the number of characters. -/
def count (s sep : Bytes) : Nat :=
  if sep.isEmpty then Utf8.count s + 1 else go s.length s 0
where
  go : Nat → Bytes → Nat → Nat
    | 0, _, n => n
    | fuel + 1, rest, n =>
      match indexOf? rest sep with
      | some i => go fuel (rest.drop (i + sep.length)) (n + 1)
      | none => n

/-- The first `n` characters as pieces of their own, the last piece holding the rest. -/
def explode (s : Bytes) (n : Int) : List Bytes :=
  let pieces := (Utf8.decode s).map Utf8Piece.bytes
  let l := pieces.length
  let k := if n < 0 || n > l then l else n.toNat
  if k == 0 then [] else pieces.take (k - 1) ++ [(pieces.drop (k - 1)).flatten]

/-- Cuts `s` at `sep` into at most `n` pieces, keeping `keep` bytes of each separator with
the piece before it. -/
def cutPieces (s sep : Bytes) (keep : Nat) : Nat → Bytes → List Bytes
  | 0, rest => [rest]
  | k + 1, rest =>
    match indexOf? rest sep with
    | some m => rest.take (m + keep) :: cutPieces s sep keep k (rest.drop (m + sep.length))
    | none => [rest]

/-- Splits at `sep` into at most `n` pieces (`n < 0`: all), keeping `keep` bytes of each
separator. -/
def splitWith (s sep : Bytes) (keep : Nat) (n : Int) : List Bytes :=
  if n == 0 then []
  else if sep.isEmpty then explode s n
  else
    let limit := if n < 0 then count s sep + 1 else n.toNat
    let limit := min limit (s.length + 1)
    cutPieces s sep keep (limit - 1) s

def split (s sep : Bytes) : List Bytes := splitWith s sep 0 (-1)

def splitAfter (s sep : Bytes) : List Bytes := splitWith s sep sep.length (-1)

/-- Replaces the first `n` occurrences of `old` by `new` (`n < 0`: all). -/
def replace (s old new : Bytes) (n : Int) : Bytes :=
  if old == new || n == 0 then s
  else
    let m := count s old
    if m == 0 then s
    else
      let k := if n < 0 || m < n then m else n.toNat
      if old.isEmpty then
        -- one insertion at the start and one after each of the next k - 1 characters
        let pieces := (Utf8.decode s).map Utf8Piece.bytes
        new ++ (pieces.take (k - 1)).flatMap (· ++ new) ++ (pieces.drop (k - 1)).flatten
      else go k s
where
  go : Nat → Bytes → Bytes
    | 0, rest => rest
    | k + 1, rest =>
      match indexOf? rest old with
      | some j => rest.take j ++ new ++ go k (rest.drop (j + old.length))
      | none => rest

def pointOf : Utf8Piece → Nat
  | .char c => c.toNat
  | .stray _ => 0xFFFD

def trimSet (s cutset : Bytes) : Bytes :=
  if s.isEmpty || cutset.isEmpty then s
  else
    let set := (Utf8.decode cutset).map pointOf
    let inSet (p : Utf8Piece) : Bool := set.contains (pointOf p)
    Utf8.join (((Utf8.decode s).dropWhile inSet).reverse.dropWhile inSet).reverse

def repeatN (s : Bytes) (n : Nat) : Bytes := (List.replicate n s).flatten

theorem split_nil_sep (s : Bytes) : split s [] = explode s (-1) := by
  simp [split, splitWith]

end Bytes

end ProcessTitle
