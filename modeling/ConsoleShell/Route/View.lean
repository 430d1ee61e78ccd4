/-!
# Views

The screens of the console, their titles, and which of them are open to visitors without a session.
-/

namespace ConsoleShell

inductive View
  | home
  | customers
  | customerAdd
  | devices
  | orgs
  | org
  | orgAdd
  | users
  | user
  | things
  | thing
  | login
  | signout
  | notFound
  deriving DecidableEq

namespace View

def title : View → String
  | home => "Home"
  | customers => "Customers"
  | customerAdd => "Add Customer"
  | devices => "Devices"
  | orgs => "Organizations"
  | org => "Organization"
  | orgAdd => "Add Organization"
  | users => "Users"
  | user => "User"
  | things => "Things"
  | thing => "Thing"
  | login => "Login"
  | signout => "Sign Out"
  | notFound => "Not Found"

/-- Open without a session. -/
def isPublic : View → Bool
  | login | signout | notFound => true
  | _ => false

end View

end ConsoleShell
