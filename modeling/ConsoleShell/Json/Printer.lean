import ConsoleShell.Json.Basic
import ConsoleShell.Decimal.Shortest
import ConsoleShell.Text.Escape

/-!
# Compact JSON text

`Json.print` writes a value without blanks. In strings only the quote, the backslash and the controls below
`U+0020` are escaped; everything else stands for itself.
-/

namespace ConsoleShell

open Decimal Text

namespace Json

/-- Four hexadecimal digits after `\u`. -/
def unicodeEscape (n : Nat) : List Char :=
  ['\\', 'u', hexDigit (n / 4096 % 16), hexDigit (n / 256 % 16), hexDigit (n / 16 % 16), hexDigit (n % 16)]

/-- How a character stands in a string. -/
def escapeChar (c : Char) : List Char :=
  if c = '"' then ['\\', '"']
  else if c = '\\' then ['\\', '\\']
  else if c.toNat = 0x08 then ['\\', 'b']
  else if c.toNat = 0x09 then ['\\', 't']
  else if c.toNat = 0x0A then ['\\', 'n']
  else if c.toNat = 0x0C then ['\\', 'f']
  else if c.toNat = 0x0D then ['\\', 'r']
  else if c.toNat < 0x20 then unicodeEscape c.toNat
  else [c]

def quoteChars (s : String) : List Char := '"' :: (s.toList.flatMap escapeChar ++ ['"'])

def numberChars : Number → List Char
  | .int n => if n < 0 then '-' :: digitChars n.natAbs else digitChars n.natAbs
  | .double x => x.text

mutual

def printChars : Json → List Char
  | .null => ['n', 'u', 'l', 'l']
  | .bool true => ['t', 'r', 'u', 'e']
  | .bool false => ['f', 'a', 'l', 's', 'e']
  | .number n => numberChars n
  | .text s => quoteChars s
  | .array items => '[' :: (printItems items ++ [']'])
  | .object members => '\x7b' :: (printMembers members ++ ['\x7d'])

def printItems : List Json → List Char
  | [] => []
  | [v] => printChars v
  | v :: w :: r => printChars v ++ ',' :: printItems (w :: r)

def printMembers : List (String × Json) → List Char
  | [] => []
  | [(k, v)] => quoteChars k ++ ':' :: printChars v
  | (k, v) :: m :: r => quoteChars k ++ ':' :: (printChars v ++ ',' :: printMembers (m :: r))

end

def print (v : Json) : String := String.ofList (printChars v)

end Json

end ConsoleShell
