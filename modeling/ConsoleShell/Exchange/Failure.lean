import ConsoleShell.Exchange.BackendError
import ConsoleShell.Exchange.Fault
import ConsoleShell.Session.Storage

/-!
# What can go wrong in an exchange

A post may fail to reach the endpoint; a response may have the wrong status, report errors, or not be what was
asked for; a login may be rejected, lack a profile, or not be saved. Each failure is a cause, and `message` words
it.
-/

namespace ConsoleShell

/-- No response came. -/
inductive TransportError
  | encode (fault : Fault)
  | request (detail : String)
  | body (detail : String)
  deriving DecidableEq

def TransportError.message : TransportError → String
  | .encode fault => "failed to encode request body: " ++ fault.message
  | .request detail => "request failed: " ++ detail
  | .body detail => "failed to read response body: " ++ detail

structure Response where
  status : UInt16
  body : String
  deriving DecidableEq

/-- A response that is not what was asked for. -/
inductive DecodeError
  /-- The text is no JSON, or of another shape. -/
  | malformed
  | notAnObject
  | noData
  | noProfile
  deriving DecidableEq

/-- What is wrong with a text in detail is left open: `<json>` stands for it. -/
def DecodeError.message : DecodeError → String
  | .malformed => "<json>"
  | .notAnObject => "response body is not a JSON object"
  | .noData => "response has no data member"
  | .noProfile => "userProfile is null"

/-- A query did not give its data. -/
inductive QueryError
  | transport (cause : TransportError)
  | status (response : Response)
  | backend (errors : List BackendError)
  | decode (cause : DecodeError)

namespace QueryError

def message : QueryError → String
  | .transport cause => "graphql transport failed: " ++ cause.message
  | .status response => "graphql endpoint returned HTTP " ++ toString response.status.toNat
  | .backend errors => "graphql request failed: " ++ String.intercalate "; " (errors.map (·.display))
  | .decode cause => "invalid graphql response: " ++ cause.message

/-- The errors that the backend reported, if that is what went wrong. -/
def reported? : QueryError → Option (List BackendError)
  | .backend errors => some errors
  | _ => none

end QueryError

/-- A login gave no session. -/
inductive LoginError
  | transport (cause : TransportError)
  | rejected (status : UInt16) (text : String)
  | decode (cause : DecodeError)
  | profile (cause : QueryError)
  | storage (cause : StorageError)

def LoginError.message : LoginError → String
  | .transport cause => "login transport failed: " ++ cause.message
  | .rejected status text => "login rejected (HTTP " ++ toString status.toNat ++ "): " ++ text
  | .decode cause => "invalid login response: " ++ cause.message
  | .profile cause => "profile fetch failed: " ++ cause.message
  | .storage cause => "session not saved: " ++ cause.message

end ConsoleShell
