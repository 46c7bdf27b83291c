import ReleaseBulletin.Bytes.Basic
import ReleaseBulletin.Url.Basic

/-!
Requests and what comes back for them.
-/
namespace ReleaseBulletin.Http

/-- A request for a resource. All requests ask in the same way; they differ in the URL and in the
credentials that go with it. -/
structure Request where
  url : Url
  authorization : Option String
  deriving DecidableEq, Repr

/-- The line that stands for a request in a log of what was received. -/
def Request.line (r : Request) : String := "GET " ++ String.ofList r.url.requestText

/-- The headers that tell requests of this program from others. -/
def Request.headers (r : Request) : List (String × Option String) :=
  [("accept", some "application/vnd.github+json"),
   ("authorization", r.authorization),
   ("user-agent", some "relnotes/0.1.0"),
   ("x-github-api-version", some "2022-11-28")]

/-- An answer. -/
structure Reply where
  status : Nat
  /-- Where the resource is said to be instead. -/
  location : Option String
  body : Bytes
  /-- Whether the body came to its announced end. -/
  complete : Bool
  deriving DecidableEq, Repr

/-- What becomes of a request. -/
inductive Contact where
  /-- The other side is never reached. -/
  | unreachable
  /-- It receives the request and says nothing. -/
  | silent
  | answered (reply : Reply)
  deriving DecidableEq, Repr

def Contact.wasReceived : Contact → Bool
  | .unreachable => false
  | .silent => true
  | .answered _ => true

end ReleaseBulletin.Http
