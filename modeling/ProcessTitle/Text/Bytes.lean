/-!
Byte strings. A command line, a title, a thread name and an environment entry are byte
strings: the kernel neither knows nor checks an encoding, so a cut may fall inside a
multi-byte character. This module holds the byte-level operations the rest of the library
is written with: joining, splitting, cutting at a separator and trimming.
-/

namespace ProcessTitle

/-- A byte string, as the kernel stores command lines and names. -/
abbrev Bytes := List UInt8

namespace Bytes

def ofString (s : String) : Bytes := s.toUTF8.toList

def byte (c : Char) : UInt8 := c.toNat.toUInt8

def nul : UInt8 := 0

def space : UInt8 := 32

def join (sep : Bytes) (parts : List Bytes) : Bytes := sep.intercalate parts

def trimRight (b : UInt8) (s : Bytes) : Bytes := (s.reverse.dropWhile (· == b)).reverse

def dropSuffix (suffix s : Bytes) : Bytes :=
  if suffix.isSuffixOf s then s.take (s.length - suffix.length) else s

def dropPrefix (pre s : Bytes) : Bytes :=
  if pre.isPrefixOf s then s.drop pre.length else s

def splitOnByte (b : UInt8) (s : Bytes) : List Bytes := s.splitOn b

def cut (b : UInt8) (s : Bytes) : Option (Bytes × Bytes) :=
  match s.findIdx? (· == b) with
  | some i => some (s.take i, s.drop (i + 1))
  | none => none

def indexOf? (s sub : Bytes) : Option Nat :=
  go s 0
where
  go : Bytes → Nat → Option Nat
    | [], i => if sub.isEmpty then some i else none
    | c :: r, i => if sub.isPrefixOf (c :: r) then some i else go r (i + 1)

def lastIndexOf? (s sub : Bytes) : Option Nat :=
  go s 0 none
where
  go : Bytes → Nat → Option Nat → Option Nat
    | [], i, last => if sub.isEmpty then some i else last
    | c :: r, i, last => go r (i + 1) (if sub.isPrefixOf (c :: r) then some i else last)

/-- Byte order: the first differing byte decides, and a proper prefix comes first. -/
def lexLt : Bytes → Bytes → Bool
  | [], [] => false
  | [], _ :: _ => true
  | _ :: _, [] => false
  | a :: r, b :: t => a < b || (a == b && lexLt r t)

def contains (s sub : Bytes) : Bool := (indexOf? s sub).isSome

@[simp] theorem trimRight_nil (b : UInt8) : trimRight b [] = [] := rfl

@[simp] theorem dropSuffix_nil (s : Bytes) : dropSuffix [] s = s := by
  simp [dropSuffix]

end Bytes

end ProcessTitle
