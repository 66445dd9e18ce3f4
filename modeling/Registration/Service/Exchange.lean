import Registration.Failure
import Registration.Journal
import Registration.Json.Writer
import Registration.Web.Url

/-!
# Exchanges with other services

A call of a service sends a request, takes the reply and notes what went wrong. An `Exchange` is all
that can be seen of a call. A request is sent only if its URL can be read and its token is written
in ASCII; a reply is taken only if the URL names a scheme and a host (`ofReply`).
-/

namespace Registration

open Registration.Web

/-- Where a service is reached, and the token it asks for; an empty token is not sent. -/
structure Endpoint where
  baseUrl : String
  token : String

/-- One request. -/
structure Request where
  method : String
  url : Url
  apiKey : Option String
  body : Option Json

/-- What came back: a reply with its status, or the reason why none came. -/
inductive Reply where
  | answered (status : Int) (body : String)
  | unreachable (detail : String)

/-- Why a call did not end normally. -/
inductive ServiceError where
  | failed (failure : Failure)
  /-- The named fields cannot be sent. -/
  | unsendable (fields : List String)
  /-- The URL cannot be read. -/
  | unreadableUrl
  /-- The token has a character outside ASCII. -/
  | unsendableToken
  /-- A reply came from a URL that names no scheme or no host. -/
  | noOrigin
  deriving DecidableEq

/-- What can be seen of a call. -/
structure Exchange (α : Type) where
  requests : List Request
  journal : List LogLine
  result : Except ServiceError α

namespace Endpoint

/-- The base URL without slashes at its end. -/
def base (e : Endpoint) : String :=
  String.ofList (e.baseUrl.toList.reverse.dropWhile (· = '/')).reverse

/-- The key that is sent along. -/
def apiKey (e : Endpoint) : Option String := if e.token = "" then none else some e.token

/-- The URL of a path behind the base, with a query if one is given. -/
def url? (e : Endpoint) (path : String) (query : Option String) : Option Url := do
  let url ← Url.read? (e.base ++ path)
  let url ← url.destination?
  match query with
  | some q => url.withQuery? q.toList
  | none => pure url

/-- The request to a path behind the base. -/
def request (e : Endpoint) (method path : String) (query : Option String) (body : Option Json) :
    Except ServiceError Request :=
  match e.url? path query with
  | none => .error .unreadableUrl
  | some url =>
    if e.token.toList.all Text.Punycode.isAscii then .ok ⟨method, url, e.apiKey, body⟩
    else .error .unsendableToken

end Endpoint

namespace Exchange

variable {α : Type}

/-- A call that failed with a line in the journal. -/
def failing (r : Request) (line : String) (f : Failure) : Exchange α :=
  ⟨[r], [⟨.error, line⟩], .error (.failed f)⟩

/-- A call that ended normally. -/
def done (r : Request) (a : α) : Exchange α := ⟨[r], [], .ok a⟩

/-- The call whose request, if it can be made, gets the reply. -/
def ofReply (request : Except ServiceError Request) (reply : Reply)
    (answered : Request → Int → String → Exchange α) (unreachable : Request → String → Exchange α) :
    Exchange α :=
  match request, reply with
  | .error e, _ => ⟨[], [], .error e⟩
  | .ok r, .unreachable detail => unreachable r detail
  | .ok r, .answered status body =>
    if r.url.isAbsolute then answered r status body else ⟨[r], [], .error .noOrigin⟩

end Exchange

end Registration
