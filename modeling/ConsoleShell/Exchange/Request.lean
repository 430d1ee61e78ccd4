import ConsoleShell.Json.Basic

/-!
# Requests

What the console posts: a query with its variables to the GraphQL endpoint, credentials to the login endpoint.
-/

namespace ConsoleShell

open Text

structure Request where
  query : String
  vars : Json.Members := []

namespace Request

/-- Sets one variable, in place of an earlier one of that name. -/
def withVariable (r : Request) (name : String) (value : Json) : Request :=
  { r with vars := r.vars.insert name value }

/-- A query with variables set one after the other. -/
def ofVariables (query : String) (vars : List (String × Json)) : Request :=
  vars.foldl (fun r v => r.withVariable v.1 v.2) { query := query }

def isEmpty (r : Request) : Bool := r.query == "" && r.vars.isEmpty

def toJson (r : Request) : Json :=
  .object [("query", .text r.query), ("variables", .object r.vars)]

/-- Asks for the profile of the signed-in user. -/
def userProfile : Request := { query := "query \x7b userProfile \x7b email \x7d \x7d" }

end Request

structure Credentials where
  email : String
  password : String
  deriving DecidableEq

def Credentials.toJson (c : Credentials) : Json :=
  .object [("email", .text c.email), ("password", .text c.password)]

end ConsoleShell
