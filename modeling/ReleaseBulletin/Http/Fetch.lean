import ReleaseBulletin.Session
import ReleaseBulletin.Url.Reader

/-!
Fetching a resource: a request is sent on to wherever its replies point, a bounded number of times.
-/
namespace ReleaseBulletin.Http.Fetch
open Session Url

def redirectStatuses : List Nat := [301, 302, 303, 307, 308]

/-- Where a reply to a request for the URL points. A place that is no URL is none. -/
def target? (url : Url) (reply : Reply) : Option Url :=
  if reply.status ∈ redirectStatuses then
    reply.location.bind fun place => (Url.Reader.resolve url place).toOption
  else none

def serverPort? (u : Url) : Option Nat := (u.authority.bind (·.port)).or (defaultPort? u.scheme)

def sameServer (u v : Url) : Bool := u.host? = v.host? && serverPort? u = serverPort? v

/-- The request for the place that a reply points to. Credentials are for one server only. -/
def redirected (r : Request) (target : Url) : Request :=
  ⟨target, if sameServer r.url target then r.authorization else none⟩

def isSendable (scheme : String) : Bool := scheme == "http" || scheme == "https"

/-- Sends a request and follows at most so many replies that point elsewhere. The endpoint stands
for the resource in failures. -/
def fetch (endpoint : String) (redirects : Nat) (r : Request) : Session Reply :=
  if isSendable r.url.scheme then do
    match ← ask r with
    | .unreachable => fail (.unanswered endpoint r.url.print)
    | .silent => fail (.unanswered endpoint r.url.print)
    | .answered reply =>
      match target? r.url reply with
      | none => if reply.complete then return reply else fail (.answerCutShort endpoint)
      | some target =>
        match redirects with
        | 0 => fail (.tooManyRedirects endpoint r.url.print)
        | n + 1 => fetch endpoint n (redirected r target)
  else fail (.unsupportedScheme endpoint r.url.print)

def maxRedirects : Nat := 10

end ReleaseBulletin.Http.Fetch
