import ConsoleShell.Route.Pattern

/-!
# Route tables

A table lists patterns with their views in match order; the first pattern that matches a path decides. A table is
refused when a pattern does not parse or when a catch-all stands anywhere but at the very end.
-/

namespace ConsoleShell

structure Route (V : Type) where
  text : String
  pattern : Pattern
  view : V
  deriving DecidableEq

inductive TableError
  | invalidPattern (text : String) (cause : PatternError)
  | duplicateCatchAll
  | misplacedCatchAll (index len : Nat)
  deriving DecidableEq

def TableError.message : TableError → String
  | .invalidPattern text cause => "invalid route pattern `" ++ text ++ "`: " ++ cause.message
  | .duplicateCatchAll => "route table declares more than one catch-all"
  | .misplacedCatchAll index len =>
    "catch-all at position " ++ toString index ++ " must be the last of " ++ toString len ++ " routes"

structure Table (V : Type) where
  routes : List (Route V)
  deriving DecidableEq

variable {V : Type}

/-- Reads the patterns in order and stops at the first that is not one. -/
def readRoutes : List (String × V) → Except TableError (List (Route V))
  | [] => .ok []
  | (text, view) :: rest =>
    match Pattern.parse text with
    | .error cause => .error (.invalidPattern text cause)
    | .ok pattern => (readRoutes rest).map (⟨text, pattern, view⟩ :: ·)

namespace Route

def isCatchAll (r : Route V) : Bool := r.pattern.isCatchAll

def match? (r : Route V) (path : String) : Option (V × Params) :=
  (r.pattern.capture? path).map fun params => (r.view, params)

end Route

namespace Table

/-- The table of patterns and views in match order. -/
def ofEntries (entries : List (String × V)) : Except TableError (Table V) :=
  match readRoutes entries with
  | .error e => .error e
  | .ok routes =>
    if 1 < routes.countP Route.isCatchAll then .error .duplicateCatchAll
    else
      let index := routes.findIdx Route.isCatchAll
      if index + 1 < routes.length then .error (.misplacedCatchAll index routes.length)
      else .ok ⟨routes⟩

/-- The view and the parameters of the first route that matches. -/
def find? (t : Table V) (path : String) : Option (V × Params) := t.routes.findSome? (·.match? path)

def hasCatchAll (t : Table V) : Bool := t.routes.getLast?.any Route.isCatchAll

def size (t : Table V) : Nat := t.routes.length

def isEmpty (t : Table V) : Bool := t.routes.isEmpty

/-- The patterns as they were written, with their views. -/
def entries (t : Table V) : List (String × V) := t.routes.map fun r => (r.text, r.view)

end Table

end ConsoleShell
