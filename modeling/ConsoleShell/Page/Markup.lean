/-!
# Markup

Elements with attributes, and texts. `Markup.html` writes them: in texts the ampersand and the angle brackets are
escaped, and in the values of attributes the quote as well. An empty text becomes one space, so that it keeps its
place.
-/

namespace ConsoleShell

inductive Markup
  | text (s : String)
  | element (tag : String) (attributes : List (String × Option String)) (children : List Markup)
  | void (tag : String) (attributes : List (String × Option String))

namespace Markup

def escapeChar (c : Char) : List Char :=
  if c = '&' then "&amp;".toList
  else if c = '<' then "&lt;".toList
  else if c = '>' then "&gt;".toList
  else [c]

def textHtml (s : String) : String :=
  if s = "" then " " else String.ofList (s.toList.flatMap escapeChar)

def escapeQuoted (c : Char) : List Char := if c = '"' then "&quot;".toList else escapeChar c

/-- An attribute without a value only has its name. -/
def attributeHtml : String × Option String → String
  | (name, some value) => " " ++ name ++ "=\"" ++ String.ofList (value.toList.flatMap escapeQuoted) ++ "\""
  | (name, none) => " " ++ name

def openTag (tag : String) (attributes : List (String × Option String)) : String :=
  "<" ++ tag ++ String.join (attributes.map attributeHtml) ++ ">"

mutual

def html : Markup → String
  | .text s => textHtml s
  | .element tag attributes children => openTag tag attributes ++ htmls children ++ "</" ++ tag ++ ">"
  | .void tag attributes => openTag tag attributes

def htmls : List Markup → String
  | [] => ""
  | m :: r => m.html ++ htmls r

end

end Markup

end ConsoleShell
