import ConsoleShell.Route.Table
import ConsoleShell.Route.View

/-!
# The two consoles

Tenants and operators are served different screens: each variant has its own table of routes. A path that no
route matches leads to the view `notFound`.
-/

namespace ConsoleShell

inductive Variant
  /-- Customers, users and devices. -/
  | tenant
  /-- Organizations, users and things. -/
  | admin
  deriving DecidableEq

def loginPath : String := "/login"

namespace Variant

/-- The routes of a console, in match order. -/
def entries : Variant → List (String × View)
  | tenant => [("/", .home), ("/customers", .customers), ("/customer-add", .customerAdd), ("/users", .users),
      ("/devices", .devices), (loginPath, .login), ("/signout", .signout), ("*", .notFound)]
  | admin => [("/", .home), ("/orgs", .orgs), ("/org/:id", .org), ("/org-add", .orgAdd), ("/users", .users),
      ("/user/:id", .user), ("/things", .things), ("/thing/:id", .thing), (loginPath, .login),
      ("/signout", .signout), ("*", .notFound)]

def table (v : Variant) : Except TableError (Table View) := Table.ofEntries v.entries

end Variant

def resolveView (routes : Table View) (path : String) : View × Params :=
  (routes.find? path).getD (.notFound, [])

end ConsoleShell
