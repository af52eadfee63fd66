import ProcessTitle.Text.Utf8
import ProcessTitle.Unicode.Category

/-!
Quoted text, as log lines and error messages write a title or an expression: between double
quotes, a printable character stands for itself, a quote or backslash gets a backslash, the
usual control characters take their short escapes, other characters a hexadecimal escape, and
a stray byte `\x` with its two digits. The result is ASCII apart from printable characters.
-/

namespace ProcessTitle

namespace Quoted

def hexDigit (n : Nat) : UInt8 :=
  if n < 10 then (48 + n).toUInt8 else (87 + n).toUInt8

def hexFixed (width n : Nat) : Bytes :=
  (List.range width).reverse.map fun i => hexDigit (n / Nat.pow 16 i % 16)

/-- Printable characters: letters, marks, numbers, punctuation, symbols and the ASCII space.
In Latin-1 that is the ASCII graphic range and U+00A1 to U+00FF without the soft hyphen. -/
def isPrint (c : Char) : Bool :=
  let n := c.toNat
  if n ≤ 0xFF then (0x20 ≤ n && n ≤ 0x7E) || (0xA1 ≤ n && n != 0xAD)
  else Unicode.isGraphic n

def escapeChar (c : Char) : Bytes :=
  let n := c.toNat
  if c == '"' || c == '\\' then [92, n.toUInt8]
  else if isPrint c then String.utf8EncodeChar c
  else if n == 7 then Bytes.ofString "\\a"
  else if n == 8 then Bytes.ofString "\\b"
  else if n == 12 then Bytes.ofString "\\f"
  else if n == 10 then Bytes.ofString "\\n"
  else if n == 13 then Bytes.ofString "\\r"
  else if n == 9 then Bytes.ofString "\\t"
  else if n == 11 then Bytes.ofString "\\v"
  else if n < 32 || n == 0x7F then Bytes.ofString "\\x" ++ hexFixed 2 n
  else if n < 0x10000 then Bytes.ofString "\\u" ++ hexFixed 4 n
  else Bytes.ofString "\\U" ++ hexFixed 8 n

def escapePiece : Utf8Piece → Bytes
  | .char c => escapeChar c
  | .stray b => Bytes.ofString "\\x" ++ hexFixed 2 b.toNat

def quote (s : Bytes) : Bytes := [34] ++ (Utf8.decode s).flatMap escapePiece ++ [34]

/-- A character between single quotes, escaped: inside single quotes the single quote is
escaped and the double quote is not. -/
def quoteRune (c : Char) : Bytes :=
  let body := if c.toNat == 39 then [92, 39] else if c == '"' then [34] else escapeChar c
  [39] ++ body ++ [39]

end Quoted

end ProcessTitle
