import ConsoleShell.Route.Resolve
import ConsoleShell.Text.Blank
import ConsoleShell.Text.Letters

/-!
# Locations

A location leads to a place on this site or elsewhere, and the console shows the view of its path. It may begin with
a scheme and an authority, and a query and a fragment may follow the path. `pathOfLocation` gives the path; user, host
and port are skipped and not looked at. Controls and spaces at the ends do not count, nor do gaps, save in the path of
a file.
-/

namespace ConsoleShell

open Text

/-- What a scheme says about the text behind it. -/
inductive SchemeKind
  /-- An authority follows, behind any number of slashes; a backslash is a slash. -/
  | web
  /-- An authority may stand behind two slashes; a backslash is a slash. -/
  | file
  /-- An authority may stand behind two slashes; a backslash is none. Without a slash there are no segments. -/
  | other
  deriving DecidableEq

namespace SchemeKind

def ofName (name : String) : SchemeKind :=
  if name ∈ ["http", "https", "ws", "wss", "ftp"] then web else if name = "file" then file else other

def isSlash (k : SchemeKind) (c : Char) : Bool := c == '/' || (c == '\\' && k != other)

end SchemeKind

/-- The scheme of the site itself. -/
def siteScheme : String := "https"

/-- A letter, and then letters, digits and `+`, `-` and `.` up to a colon; in lower case, with the text behind. -/
def scheme? (s : List Char) : Option (String × List Char) :=
  let inScheme (c : Char) : Bool := c.isAlphanum || ['+', '-', '.'].contains c || isGap c
  match withoutGaps (s.takeWhile inScheme), s.dropWhile inScheme with
  | c :: name, ':' :: rest => if c.isAlpha then some (String.ofList ((c :: name).map Char.toLower), rest) else none
  | _, _ => none

def endsPath (c : Char) : Bool := c == '?' || c == '#'

/-- The path with the segments from here on. -/
def rootedPath (k : SchemeKind) (s : List Char) : List Char :=
  resolvePath k.isSlash (s.takeWhile fun c => !endsPath c)

def endsAuthority (k : SchemeKind) (c : Char) : Bool := k.isSlash c || endsPath c

/-- Drops the user: all that stands before an `@` in the authority. -/
def dropUser (k : SchemeKind) : List Char → List Char
  | [] => []
  | c :: r => if '@' ∈ (c :: r).takeWhile fun d => !endsAuthority k d then dropUser k r else c :: r

/-- Drops the host, up to the colon of a port or the end of the authority. A colon between brackets is part of the
host. -/
def dropHost (k : SchemeKind) (bracketed : Bool) : List Char → List Char
  | [] => []
  | c :: r =>
    if endsAuthority k c || (c == ':' && !bracketed) then c :: r
    else dropHost k (c == '[' || (bracketed && c != ']')) r

/-- What follows the authority that begins here. -/
def afterAuthority (k : SchemeKind) (s : List Char) : List Char :=
  match dropHost k false (dropUser k s) with
  | ':' :: port => port.dropWhile Char.isDigit
  | rest => rest

/-- The path behind the authority that begins here. Only a `web` location always has one. -/
def pathAfterAuthority (k : SchemeKind) (s : List Char) : List Char :=
  match afterAuthority k s with
  | [] => if k = .web then ['/'] else []
  | c :: r => if k.isSlash c then rootedPath k r else if endsPath c && k != .web then [] else rootedPath k (c :: r)

/-- The path of a location without a scheme of its own: two slashes lead to another host. -/
def sitePath (s : List Char) : List Char :=
  let rest := s.dropWhile SchemeKind.web.isSlash
  if 2 ≤ (s.takeWhile SchemeKind.web.isSlash).length then pathAfterAuthority .web rest else rootedPath .web rest

/-- The name of the machine itself, as the host of a file. It may be percent-encoded, with its letters in any form. -/
def isLocalHost (host : List Char) : Bool :=
  match String.fromUTF8? ⟨(percentDecode host).toArray⟩ with
  | some name => name.toList.flatMap plainLetters == "localhost".toList
  | none => false

/-- What follows the slash that comes first but for gaps. -/
def afterFileSlash? (s : List Char) : Option (List Char) :=
  match s.dropWhile isGap with
  | [] => none
  | c :: r => if SchemeKind.file.isSlash c then some r else none

/-- Where the segments of a file's path begin. Two slashes lead to a host, but the letter of a drive is none. The slash
behind the host begins the path; behind no host, or the machine itself, it counts as one that ends an empty segment. -/
def fileSegments (s : List Char) : List Char :=
  match afterFileSlash? s with
  | none => s
  | some r => match afterFileSlash? r with
    | none => r
    | some authority =>
      let host := withoutGaps (authority.takeWhile fun c => !endsAuthority .file c)
      let rest := authority.dropWhile fun c => !endsAuthority .file c
      if isDrive host then authority
      else if host = [] || isLocalHost host then rest
      else (afterFileSlash? rest).getD rest

/-- The path of a file begins with one slash, however many are written. -/
def filePath (s : List Char) : List Char := '/' :: (rootedPath .file (fileSegments s)).dropWhile (· == '/')

/-- The path behind a scheme of kind `other`. -/
def otherPath : List Char → List Char
  | '/' :: '/' :: r => pathAfterAuthority .other r
  | '/' :: r => rootedPath .other r
  | s => (s.takeWhile fun c => !endsPath c).flatMap (percentEncode isAsciiText)

/-- The path of a location. -/
def pathOfLocation (location : String) : String :=
  let s := trimEnds (fun c => c.toNat ≤ 0x20) location.toList
  String.ofList <| match scheme? s with
    | none => sitePath (withoutGaps s)
    | some (name, rest) =>
      if name = siteScheme then sitePath (withoutGaps rest)
      else match SchemeKind.ofName name with
        | .web => pathAfterAuthority .web ((withoutGaps rest).dropWhile SchemeKind.web.isSlash)
        | .file => filePath rest
        | .other => otherPath (withoutGaps rest)

end ConsoleShell
