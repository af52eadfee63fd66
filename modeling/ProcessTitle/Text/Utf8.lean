import ProcessTitle.Text.Bytes

/-!
Reading byte strings as UTF-8: a well-formed sequence (shortest form, no surrogate, at most
U+10FFFF) is one character, and any other byte is a piece of its own, shown as U+FFFD.
-/
namespace ProcessTitle

/-- One piece of a byte string read as UTF-8: a character, or a byte that starts no valid
sequence. -/
inductive Utf8Piece where
  | char (c : Char)
  | stray (b : UInt8)
deriving DecidableEq, Repr, Inhabited

namespace Utf8Piece

def bytes : Utf8Piece → Bytes
  | .char c => String.utf8EncodeChar c
  | .stray b => [b]

def shown : Utf8Piece → Char
  | .char c => c
  | .stray _ => '�'

end Utf8Piece

namespace Utf8

def isCont (b : UInt8) : Bool := 0x80 ≤ b && b ≤ 0xBF

def low (b : UInt8) : Nat := (b &&& 0x3F).toNat

def scalar (n : Nat) : Char := Char.ofNat n

/-- The first piece of `b :: rest` and how many bytes of `rest` it also took (0 to 3).
The second byte's range depends on the first so that only shortest forms, no surrogates
and nothing above U+10FFFF are accepted. -/
def head (b : UInt8) (rest : Bytes) : Utf8Piece × Nat :=
  if b < 0x80 then (.char (scalar b.toNat), 0)
  else if b < 0xC2 then (.stray b, 0)
  else if b < 0xE0 then
    match rest with
    | c1 :: _ => if isCont c1 then (.char (scalar ((b &&& 0x1F).toNat * 64 + low c1)), 1)
        else (.stray b, 0)
    | [] => (.stray b, 0)
  else if b < 0xF0 then
    let lo : UInt8 := if b == 0xE0 then 0xA0 else 0x80
    let hi : UInt8 := if b == 0xED then 0x9F else 0xBF
    match rest with
    | c1 :: c2 :: _ =>
      if lo ≤ c1 && c1 ≤ hi && isCont c2 then
        (.char (scalar ((b &&& 0x0F).toNat * 4096 + low c1 * 64 + low c2)), 2)
      else (.stray b, 0)
    | _ => (.stray b, 0)
  else if b < 0xF5 then
    let lo : UInt8 := if b == 0xF0 then 0x90 else 0x80
    let hi : UInt8 := if b == 0xF4 then 0x8F else 0xBF
    match rest with
    | c1 :: c2 :: c3 :: _ =>
      if lo ≤ c1 && c1 ≤ hi && isCont c2 && isCont c3 then
        (.char (scalar ((b &&& 0x07).toNat * 262144 + low c1 * 4096 + low c2 * 64 + low c3)), 3)
      else (.stray b, 0)
    | _ => (.stray b, 0)
  else (.stray b, 0)

def decode : Bytes → List Utf8Piece
  | [] => []
  | b :: rest => (head b rest).1 :: decode (rest.drop (head b rest).2)
termination_by s => s.length
decreasing_by simp only [List.length_drop, List.length_cons]; omega

def toText (s : Bytes) : String := String.ofList ((decode s).map Utf8Piece.shown)

def count (s : Bytes) : Nat := (decode s).length

def join (ps : List Utf8Piece) : Bytes := ps.flatMap Utf8Piece.bytes

def valid (s : Bytes) : Bool := (decode s).all fun p => match p with
  | .char _ => true
  | .stray _ => false

end Utf8

namespace Blank

/-- The Unicode White_Space property, 25 code points: the ASCII blanks tab to carriage return
and space, next line, no-break space, ogham space mark, the spaces U+2000 to U+200A, the line and
paragraph separators, narrow no-break space, medium mathematical space and ideographic space. -/
def isBlank (c : Char) : Bool :=
  let n := c.toNat
  (9 ≤ n && n ≤ 13) || n == 32 || n == 0x85 || n == 0xA0 || n == 0x1680 ||
    (0x2000 ≤ n && n ≤ 0x200A) || n == 0x2028 || n == 0x2029 || n == 0x202F ||
    n == 0x205F || n == 0x3000

/-- A stray byte is never blank, so trimming stops at it. -/
def isBlankPiece : Utf8Piece → Bool
  | .char c => isBlank c
  | .stray _ => false

def trim (s : Bytes) : Bytes :=
  Utf8.join (((Utf8.decode s).dropWhile isBlankPiece).reverse.dropWhile isBlankPiece).reverse

def isAllBlank (s : Bytes) : Bool := (Utf8.decode s).all isBlankPiece

end Blank

end ProcessTitle
