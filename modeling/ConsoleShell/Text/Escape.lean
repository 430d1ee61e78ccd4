/-!
# Escapes

The digit of a number below 16, in lower or upper case, and the number of a digit in either case. Percent-encoding
writes a character as its bytes, each with a percent sign and two such digits.
-/

namespace ConsoleShell

namespace Text

def hexDigit (n : Nat) : Char := if n < 10 then Char.ofNat (48 + n) else Char.ofNat (87 + n)

def upperHexDigit (n : Nat) : Char := if n < 10 then Char.ofNat (48 + n) else Char.ofNat (55 + n)

def hexValue (c : Char) : Option Nat :=
  let n := c.toNat
  if 48 ≤ n ∧ n ≤ 57 then some (n - 48)
  else if 65 ≤ n ∧ n ≤ 70 then some (n - 55)
  else if 97 ≤ n ∧ n ≤ 102 then some (n - 87)
  else none

end Text

open Text

/-- The character itself, or its bytes in hexadecimal. -/
def percentEncode (stands : Char → Bool) (c : Char) : List Char :=
  if stands c then [c]
  else (String.utf8EncodeChar c).flatMap fun b => ['%', upperHexDigit (b.toNat / 16), upperHexDigit (b.toNat % 16)]

/-- The bytes of a text, with a byte in place of each percent sign and its two hexadecimal digits. -/
def percentDecode : List Char → List UInt8
  | [] => []
  | '%' :: high :: low :: r => match hexValue high, hexValue low with
    | some h, some l => UInt8.ofNat (16 * h + l) :: percentDecode r
    | _, _ => String.utf8EncodeChar '%' ++ percentDecode (high :: low :: r)
  | c :: r => String.utf8EncodeChar c ++ percentDecode r

end ConsoleShell
