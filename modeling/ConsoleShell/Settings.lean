import ConsoleShell.Route.Site
import ConsoleShell.Text.Blank

/-!
# Settings of a console

The endpoints, the key of the stored token and the variant are looked up under four names. A value counts after
trimming, and a blank one as absent, so that the default applies. Only the variant can be wrong.
-/

namespace ConsoleShell

open Text

namespace Variant

def name : Variant → String
  | tenant => "tenant"
  | admin => "admin"

/-- The variant of a name in any mixture of upper-case and lower-case ASCII letters. Blanks around it do not count. -/
def ofName? (name : String) : Option Variant :=
  let lower := String.ofList ((trim name).toList.map Char.toLower)
  if lower = "tenant" then some tenant else if lower = "admin" then some admin else none

end Variant

inductive SettingsError
  | invalidVariant (name : String)
  deriving DecidableEq

def SettingsError.message : SettingsError → String
  | .invalidVariant name => "unknown console variant `" ++ name ++ "` (expected `tenant` or `admin`)"

structure Settings where
  graphqlEndpoint : String := "http://localhost:9096/query"
  loginEndpoint : String := "http://localhost:9096/login"
  tokenKey : String := "token"
  variant : Variant := .tenant
  deriving DecidableEq

namespace Settings

def graphqlName : String := "PIOT_GRAPHQL_ENDPOINT"

def loginName : String := "PIOT_LOGIN_ENDPOINT"

def tokenName : String := "PIOT_TOKEN_KEY"

def variantName : String := "PIOT_CONSOLE_VARIANT"

/-- A value as it counts: trimmed, and absent if nothing is left. -/
def effective? (value : Option String) : Option String :=
  (value.map trim).filter (· ≠ "")

def ofLookup (lookup : String → Option String) : Except SettingsError Settings :=
  let get (name : String) : Option String := effective? (lookup name)
  let defaults : Settings := {}
  let build (variant : Variant) : Settings :=
    { graphqlEndpoint := (get graphqlName).getD defaults.graphqlEndpoint
      loginEndpoint := (get loginName).getD defaults.loginEndpoint
      tokenKey := (get tokenName).getD defaults.tokenKey
      variant := variant }
  match get variantName with
  | none => .ok (build defaults.variant)
  | some name =>
    match Variant.ofName? name with
    | some variant => .ok (build variant)
    | none => .error (.invalidVariant name)

/-- Lists of names and values are looked up from the end: the last value of a name counts. -/
def lookupLast (pairs : List (String × String)) (name : String) : Option String :=
  pairs.reverse.lookup name

def ofPairs (pairs : List (String × String)) : Except SettingsError Settings := ofLookup (lookupLast pairs)

/-- What a lookup that gives these settings holds, the variant by a name of it. -/
def lookup (s : Settings) (variant : String) (name : String) : Option String :=
  if name = graphqlName then some s.graphqlEndpoint
  else if name = loginName then some s.loginEndpoint
  else if name = tokenName then some s.tokenKey
  else if name = variantName then some variant
  else none

end Settings

end ConsoleShell
