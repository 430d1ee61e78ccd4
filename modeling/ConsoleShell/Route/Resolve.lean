import ConsoleShell.Text.Escape
import ConsoleShell.Text.Split

/-!
# Resolved paths

The path of a location is a list of segments. A segment of one dot stays where it is and a segment of two dots goes
back by one; what may not stand in a path is percent-encoded, byte by byte. Tabs and line ends are *gaps*: they are left
out, but a gap behind the letter of a drive that begins the path is where its segment ends.
-/

namespace ConsoleShell

open Text

/-- A tab or the end of a line. -/
def isGap (c : Char) : Bool := ['\t', '\n', '\r'].contains c

def withoutGaps (s : List Char) : List Char := s.filter fun c => !isGap c

/-- ASCII but its controls. It stands for itself in a path without segments. -/
def isAsciiText (c : Char) : Bool := 0x20 ≤ c.toNat && c.toNat < 0x7F

/-- Stands for itself in a segment: no space, double quote, angle bracket, backquote or brace. -/
def standsInPath (c : Char) : Bool := isAsciiText c && !([' ', '"', '<', '>', '`', '\x7b', '\x7d'].contains c)

/-- The number of dots that a segment consists of; a dot may be percent-encoded. -/
def dots? : List Char → Option Nat
  | [] => some 0
  | '.' :: r => (dots? r).map (· + 1)
  | '%' :: '2' :: c :: r => if c = 'e' ∨ c = 'E' then (dots? r).map (· + 1) else none
  | _ => none

/-- Begins with the letter of a drive: a letter with a colon or a bar, before a backslash or the end. -/
def isDrive : List Char → Bool
  | letter :: mark :: r =>
    letter.isAlpha && (mark == ':' || mark == '|') && (r.isEmpty || r.head? == some '\\')
  | _ => false

/-- Goes back by one segment, the last of `done` coming first. There is no way back over a drive. -/
def goBack : List (List Char) → List (List Char)
  | [] => []
  | s :: done => if isDrive s then s :: done else done

/-- A segment cut at the gap behind the letter of a drive, which stands with a colon at the start; there has to be more
of the segment behind the gap. -/
def cutAtGap? (s : List Char) : Option (List Char × List Char) :=
  match s.dropWhile isGap with
  | [] => none
  | letter :: r => match r.dropWhile isGap with
    | ':' :: gap :: more =>
      if letter.isAlpha && isGap gap && withoutGaps more != [] then some ([letter, ':'], withoutGaps more) else none
    | _ => none

/-- Resolves the segments of one or two dots; `done` holds the segments before, the last first. At the end such a
segment leaves an empty one. What is cut off from a drive is a segment of its own and is never taken for dots. -/
def resolveDots (done : List (List Char)) : List (List Char) → List (List Char)
  | [] => done.reverse
  | s :: rest =>
    let ending := if rest = [] then [[]] else []
    match if done = [] then cutAtGap? s else none, dots? (withoutGaps s) with
    | some (drive, more), _ => resolveDots [more, drive] rest
    | none, some 1 => resolveDots (ending ++ done) rest
    | none, some 2 => resolveDots (ending ++ goBack done) rest
    | none, _ => resolveDots (withoutGaps s :: done) rest

/-- The path whose segments stand between the slashes of `s`, a slash being what `isSlash` says. -/
def resolvePath (isSlash : Char → Bool) (s : List Char) : List Char :=
  let segments := splitAt '/' (s.map fun c => if isSlash c then '/' else c)
  ('/' :: joinWith '/' (resolveDots [] segments)).flatMap (percentEncode standsInPath)

end ConsoleShell
