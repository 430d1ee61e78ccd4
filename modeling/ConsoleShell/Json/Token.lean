import ConsoleShell.Decimal.Numeral
import ConsoleShell.Text.Escape

/-!
# Tokens of JSON text

`Token.scan` cuts a text into tokens in one pass over its characters. Outside strings, characters that are
neither blank nor punctuation form words, and a word has to be a literal or a numeral. Blanks are the space, the
tabulator and the two line ends; controls may not stand in strings; numerals have no leading zero.

A string whose escapes name half of a surrogate pair is grammatical but has no text, and a numeral beyond the
largest double has no number.
-/

namespace ConsoleShell.Json

open Decimal Text

inductive Token
  | openArray
  | closeArray
  | openObject
  | closeObject
  | comma
  | colon
  | null
  | bool (b : Bool)
  | number (n : Option Number)
  | string (s : Option String)
  deriving DecidableEq

/-- A character of a string, or a code unit written as an escape. -/
inductive Piece
  | char (c : Char)
  | unit (n : Nat)
  deriving DecidableEq

def isHighUnit (n : Nat) : Bool := 0xD800 ≤ n && n ≤ 0xDBFF

def isLowUnit (n : Nat) : Bool := 0xDC00 ≤ n && n ≤ 0xDFFF

/-- The character of a surrogate pair. -/
def pairedChar (high low : Nat) : Char := Char.ofNat (0x10000 + (high - 0xD800) * 0x400 + (low - 0xDC00))

/-- The characters of a string after those in `read`, which stands in reverse order; none if half of a surrogate
pair stands alone. -/
def joinPieces (read : List Char) : List Piece → Option (List Char)
  | [] => some read.reverse
  | .char c :: r => joinPieces (c :: read) r
  | .unit n :: .unit m :: r =>
    if isHighUnit n then if isLowUnit m then joinPieces (pairedChar n m :: read) r else none
    else if isLowUnit n then none
    else joinPieces (Char.ofNat n :: read) (.unit m :: r)
  | .unit n :: r => if isHighUnit n || isLowUnit n then none else joinPieces (Char.ofNat n :: read) r

/-- What a one-letter escape stands for. -/
def simpleEscape (c : Char) : Option Char :=
  if c = '"' ∨ c = '\\' ∨ c = '/' then some c
  else if c = 'b' then some (Char.ofNat 0x08)
  else if c = 'f' then some (Char.ofNat 0x0C)
  else if c = 'n' then some '\n'
  else if c = 'r' then some '\r'
  else if c = 't' then some '\t'
  else none

def isDigit (c : Char) : Bool := '0' ≤ c && c ≤ '9'

def digitValues (cs : List Char) : List Nat := cs.map fun c => c.toNat - 48

def digitsValue (ds : List Nat) : Nat := ds.foldl (fun n d => n * 10 + d) 0

/-- One zero, or digits that do not start with a zero. -/
def isWhole : List Char → Bool
  | [] => false
  | ['0'] => true
  | c :: _ => c != '0'

/-- An exponent: nothing, or the letter `e`, an optional sign and digits. -/
def exponent? : List Char → Option (Option Int)
  | [] => some none
  | mark :: r =>
    let negative := r.head? == some '-'
    let digits := if negative || r.head? == some '+' then r.drop 1 else r
    if (mark == 'e' || mark == 'E') && digits != [] && digits.all isDigit then
      let n : Int := digitsValue (digitValues digits)
      some (some (if negative then -n else n))
    else none

/-- The numeral that a word spells. -/
def numeral? (word : List Char) : Option Numeral :=
  let negative := word.head? == some '-'
  let body := if negative then word.drop 1 else word
  let whole := body.takeWhile isDigit
  let pointed := (body.dropWhile isDigit).head? == some '.'
  let afterPoint := if pointed then (body.dropWhile isDigit).drop 1 else []
  let fraction := afterPoint.takeWhile isDigit
  let tail := if pointed then afterPoint.dropWhile isDigit else body.dropWhile isDigit
  if isWhole whole && (!pointed || fraction != []) then
    (exponent? tail).map (⟨negative, digitValues whole, digitValues fraction, ·⟩)
  else none

def wordToken (word : List Char) : Option Token :=
  if word = ['n', 'u', 'l', 'l'] then some .null
  else if word = ['t', 'r', 'u', 'e'] then some (.bool true)
  else if word = ['f', 'a', 'l', 's', 'e'] then some (.bool false)
  else (numeral? word).map fun n => .number n.value

/-- What the scanner is in the middle of. Pieces and characters stand in reverse order. -/
inductive Scanning
  | between
  | word (read : List Char)
  | string (read : List Piece)
  | escape (read : List Piece)
  | unicode (read : List Piece) (value missing : Nat)

/-- The tokens found so far, the last one first. -/
structure Scanner where
  found : List Token
  doing : Scanning

def punctuation (c : Char) : Option Token :=
  if c = '[' then some .openArray
  else if c = ']' then some .closeArray
  else if c = '\x7b' then some .openObject
  else if c = '\x7d' then some .closeObject
  else if c = ',' then some .comma
  else if c = ':' then some .colon
  else none

def isSpace (c : Char) : Bool := c == ' ' || c == '\t' || c == '\n' || c == '\r'

/-- Takes a character outside strings and words. -/
def Scanner.start (found : List Token) (c : Char) : Scanner :=
  if isSpace c then ⟨found, .between⟩
  else if c = '"' then ⟨found, .string []⟩
  else match punctuation c with
    | some t => ⟨t :: found, .between⟩
    | none => ⟨found, .word [c]⟩

def Scanner.step (s : Scanner) (c : Char) : Option Scanner :=
  match s.doing with
  | .between => some (.start s.found c)
  | .word read =>
    if isSpace c || c == '"' || (punctuation c).isSome then
      (wordToken read.reverse).map fun t => .start (t :: s.found) c
    else some ⟨s.found, .word (c :: read)⟩
  | .string read =>
    if c = '"' then some ⟨.string ((joinPieces [] read.reverse).map String.ofList) :: s.found, .between⟩
    else if c = '\\' then some ⟨s.found, .escape read⟩
    else if c.toNat < 0x20 then none
    else some ⟨s.found, .string (.char c :: read)⟩
  | .escape read =>
    if c = 'u' then some ⟨s.found, .unicode read 0 4⟩
    else (simpleEscape c).map fun d => ⟨s.found, .string (.char d :: read)⟩
  | .unicode read value missing =>
    (hexValue c).map fun d =>
      if missing ≤ 1 then ⟨s.found, .string (.unit (value * 16 + d) :: read)⟩
      else ⟨s.found, .unicode read (value * 16 + d) (missing - 1)⟩

/-- Takes all characters and gives the tokens in order. -/
def Scanner.run (s : Scanner) : List Char → Option (List Token)
  | [] =>
    match s.doing with
    | .between => some s.found.reverse
    | .word read => (wordToken read.reverse).map fun t => (t :: s.found).reverse
    | _ => none
  | c :: cs =>
    match s.step c with
    | some t => t.run cs
    | none => none

def Token.scan (cs : List Char) : Option (List Token) := Scanner.run ⟨[], .between⟩ cs

end ConsoleShell.Json
