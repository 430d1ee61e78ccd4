import ConsoleShell.Console
import ConsoleShell.Page.Markup
import ConsoleShell.Route.Location

/-!
# Pages

What each view shows, for given parameters and a given state of the session, and what opening it does by itself:
the home page asks for a missing profile, the signout page ends the session. What fails there is shown.
-/

namespace ConsoleShell

open Markup Text

namespace Page

def classed (tag className : String) (children : List Markup) : Markup :=
  .element tag [("class", some className)] children

def plain (tag text : String) : Markup := .element tag [] [.text text]

def link (path text : String) : Markup := .element "a" [("href", some path)] [.text text]

def home (state : AuthState) (failure : Option String) : Markup :=
  let user := state.profile.toList.map fun p => classed "p" "home__user" [.text "Signed in as ", .text p.email]
  let error := failure.toList.map fun m => classed "p" "home__error" [.text m]
  classed "div" "home" (plain "h1" "Dashboard" :: (user ++ error))

def field (kind placeholder : String) : Markup :=
  .void "input" [("type", some kind), ("placeholder", some placeholder), ("class", some "login-input")]

def login (state : AuthState) : Markup :=
  let disabled := if state.authenticating then [("disabled", none)] else []
  classed "div" "login-page" [
    classed "form" "login-form" [
      plain "h1" "Sign In",
      field "email" "you@example.com",
      field "password" "Password",
      .element "button" ([("type", some "submit")] ++ disabled ++ [("class", some "login-button")])
        [.text "Sign In"]]]

def signout : Option String → Markup
  | none => classed "p" "signout-message" [.text "Signing out..."]
  | some message =>
    classed "div" "signout-message signout-message--error" [
      .element "p" []
        [.text "Signed out of this tab, but the saved session could not be removed: ", .text message],
      link loginPath "Continue to sign in"]

def notFound : Markup :=
  classed "div" "not-found" [plain "h1" "Page not found", link "/" "Back to home"]

def resource (view : View) (params : Params) : Markup :=
  let id := (params.find? "id").toList.map fun id => classed "p" "resource__id" [.text id]
  .element "section" [("data-view", some view.title), ("class", some "resource")] (plain "h1" view.title :: id)

/-- The page of a view; `failure` is what went wrong when it was opened. -/
def render (view : View) (params : Params) (state : AuthState) (failure : Option String) : Markup :=
  match view with
  | .home => home state failure
  | .login => login state
  | .signout => signout failure
  | .notFound => notFound
  | _ => resource view params

/-- Does the home page ask for the profile? -/
def wantsProfile (state : AuthState) : Bool := state.authenticated && state.profile.isNone

end Page

namespace Console

/-- Opens the page of a view at a console whose endpoints are no absolute URLs. The second part is what failed. -/
def openPage (c : Console) (view : View) : Console × Option String :=
  match view with
  | .home =>
    if Page.wantsProfile c.own.store.snapshot then
      let (c', _, outcome) := c.runRefused .refresh
      match outcome with
      | some (.refreshed (.error e)) => (c', some e.message)
      | _ => (c', none)
    else (c, none)
  | .signout =>
    let result := c.own.store.storage.outcome .remove
    (c.onOwn fun w => (w.perform (.mutate .signout)).1, match result with
      | .ok () => none
      | .error e => some e.message)
  | _ => (c, none)

/-- The page of a view as the session is now. -/
def page (c : Console) (view : View) (params : Params) (failure : Option String) : Markup :=
  Page.render view params c.own.store.snapshot failure

def application (c : Console) (location : String) : Markup :=
  let (view, params) := c.resolve (pathOfLocation location)
  .element "main" [("class", some "console")] [c.page view params none]

end Console

end ConsoleShell
