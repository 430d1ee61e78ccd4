import ConsoleShell.Exchange.Reply
import ConsoleShell.Session.Basic

/-!
# Tasks

A job is a conversation with the endpoints. It posts one request and waits for the reply as a `Task`; a reply
either makes it post the next request or ends it. A login posts the credentials without a token, and then, with the
token it was granted, asks for the profile; a query is posted with the token that the session holds at that time.

What a job does to the session is said, not done, here: an attempt to log in opens with `beginAttempt` and ends
with `endAttempt` or with the login itself, and a refreshed profile is set if the session still holds the token
that the question was asked with.
-/

namespace ConsoleShell

structure Endpoints where
  graphql : String
  login : String
  deriving DecidableEq

structure Post where
  url : String
  bearer : Option String
  body : Json

/-- A token together with the profile that belongs to it. -/
structure Grant where
  token : String
  profile : Profile
  deriving DecidableEq

inductive Job
  /-- A query whose data is wanted in some shape. -/
  | query (request : Request) (shape : Shape)
  /-- Asks for the profile again. -/
  | refresh
  /-- Obtains a grant and leaves the session alone. -/
  | authenticate (credentials : Credentials)
  /-- Obtains a grant and signs in with it. -/
  | attempt (credentials : Credentials)

/-- A job that waits for a reply. -/
inductive Task
  | query (shape : Shape)
  | refresh (sentWith : Option String)
  /-- Waits for the token. -/
  | token (signIn : Bool)
  /-- Waits for the profile that belongs to the token. -/
  | profile (signIn : Bool) (token : String)
  deriving DecidableEq

inductive Outcome
  | data (result : Except QueryError Decoded)
  | refreshed (result : Except QueryError Profile)
  | granted (result : Except LoginError Grant)
  | attempted (result : Except LoginError Unit)

/-- What a reply leads to. -/
inductive Progress
  /-- The next request, and the wait for its reply. -/
  | posts (post : Post) (task : Task)
  /-- The end of the job, and what happens to the session before it. -/
  | ends (mutation : Option Mutation) (outcome : Outcome)
  /-- The end of an attempt that was granted: what it comes to is for the storage to say. -/
  | commits (grant : Grant)

def Post.query (endpoints : Endpoints) (bearer : Option String) (request : Request) : Post :=
  { url := endpoints.graphql, bearer := bearer, body := request.toJson }

def Post.login (endpoints : Endpoints) (credentials : Credentials) : Post :=
  { url := endpoints.login, bearer := none, body := credentials.toJson }

namespace Job

/-- What happens to the session before anything is posted. -/
def opening : Job → Option Mutation
  | .attempt _ => some .beginAttempt
  | _ => none

/-- The first request, posted while the session holds `token`. -/
def post (endpoints : Endpoints) (token : Option String) : Job → Post
  | .query request _ => .query endpoints token request
  | .refresh => .query endpoints token .userProfile
  | .authenticate credentials | .attempt credentials => .login endpoints credentials

def task (token : Option String) : Job → Task
  | .query _ shape => .query shape
  | .refresh => .refresh token
  | .authenticate _ => .token false
  | .attempt _ => .token true

end Job

namespace Task

def failed (signIn : Bool) (e : LoginError) : Progress :=
  if signIn then .ends (some .endAttempt) (.attempted (.error e)) else .ends none (.granted (.error e))

/-- What a reply leads to while the session holds `token`. -/
def resume (endpoints : Endpoints) (held : Option String) (reply : Reply) : Task → Progress
  | .query shape => .ends none (.data (decodedOf shape reply))
  | .refresh sentWith =>
    match profileOf reply with
    | .error e => .ends none (.refreshed (.error e))
    | .ok p =>
      .ends (if sentWith.isSome ∧ held = sentWith then some (.setProfile p) else none) (.refreshed (.ok p))
  | .token signIn =>
    match tokenOf reply with
    | .error e => failed signIn e
    | .ok t => .posts (.query endpoints (some t) .userProfile) (.profile signIn t)
  | .profile signIn t =>
    match profileOf reply with
    | .error e => failed signIn (.profile e)
    | .ok p => if signIn then .commits ⟨t, p⟩ else .ends none (.granted (.ok ⟨t, p⟩))

end Task

/-- What an attempt that was granted comes to. -/
def commitOutcome (stored : StorageResult) : Outcome :=
  .attempted (match stored with
    | .ok () => .ok ()
    | .error e => .error (.storage e))

end ConsoleShell
