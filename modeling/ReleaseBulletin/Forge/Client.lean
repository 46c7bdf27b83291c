import ReleaseBulletin.Bytes.Base64
import ReleaseBulletin.Environment
import ReleaseBulletin.Http.Fetch
import ReleaseBulletin.Json.Reader
import ReleaseBulletin.Text.Blank
import ReleaseBulletin.Url.Endpoint

/-!
The client of the forge: every resource is asked for below one URL and with one token, and is read
from the JSON text of the answer.
-/
namespace ReleaseBulletin.Forge
open Document Environment Http Http.Fetch Session Url

/-- Access to the forge. -/
structure Client where
  /-- The URL that resources are below. -/
  base : Url
  token : Token
  deriving DecidableEq, Repr

/-- A byte that a header can hold. -/
def Client.isHeaderByte (b : UInt8) : Bool := b == 9 || (32 ≤ b && b != 127)

def Client.isSendable (t : Token) : Bool := (Bytes.Utf8.encodeString t.secret).all isHeaderByte

/-- The client for a URL and a token. The URL is looked at first. -/
def Client.connect (url : String) (token : Token) : Except Failure Client :=
  match Url.Reader.read url with
  | .error fault => .error (.invalidApiUrl url fault)
  | .ok base => if isSendable token then .ok ⟨base, token⟩ else .error .unsendableToken

def Client.endpoint (c : Client) (segments : List String) : Except Failure Url :=
  match Url.Endpoint.below? c.base segments with
  | some url => .ok url
  | none => .error (.bareApiUrl c.base.print)

/-- The text that an encoded part of a URL stands for. -/
def Client.decoded? (s : String) : Option String :=
  (Bytes.Utf8.decodeString (Url.Percent.decode s.toList)).toOption

/-- The user and the password that a URL is asked for with. -/
def Client.credentials? (u : Url) : Option (String × Option String) :=
  match u.authority with
  | none => none
  | some a =>
    match decoded? a.user with
    | none => none
    | some user =>
      let password := a.password.bind decoded?
      if user = "" ∧ password = none then none else some (user, password)

def Client.basicAuthorization (user : String) (password : Option String) : String :=
  let credentials := Bytes.Utf8.encodeString (user ++ ":" ++ password.getD "")
  "Basic " ++ String.ofList ((Bytes.Base64.encode credentials).map fun b => Char.ofNat b.toNat)

def Client.bearerAuthorization (t : Token) : String := "Bearer " ++ t.secret

def Client.withoutUser (u : Url) : Url :=
  { u with authority := u.authority.map fun a => { a with user := "", password := none } }

/-- The request for a resource. A user named in the URL stands in for the token. -/
def Client.request (c : Client) (endpoint : Url) (query : List (String × String)) : Request :=
  match credentials? endpoint with
  | none => ⟨Url.Endpoint.withPairs endpoint query, some (bearerAuthorization c.token)⟩
  | some (user, password) =>
    ⟨Url.Endpoint.withPairs (withoutUser endpoint) query, some (basicAuthorization user password)⟩

def Client.isSuccess (status : Nat) : Bool := 200 ≤ status && status < 300

def Client.refusalMessage (body : String) : String :=
  match (Json.Reader.valueOf? body).bind (·.member? "message") with
  | some (.text message) => message
  | _ => String.ofList (Text.Blank.trim body.toList)

/-- Reads an answer. -/
def Client.interpret {α : Type} (read : Tree → Option α) (endpoint : String) (reply : Reply) :
    Except Failure α :=
  let body := String.ofList (Bytes.Utf8.decodeLenient reply.body)
  if isSuccess reply.status then
    match (Json.Parser.parse body).bind read with
    | some a => .ok a
    | none => .error (.unexpectedAnswer endpoint)
  else .error (.refused endpoint reply.status (refusalMessage body))

/-- Asks for a resource. -/
def Client.get {α : Type} (c : Client) (read : Tree → Option α) (endpoint : Url)
    (query : List (String × String)) : Session α := do
  notify .debug .client
  match endpoint.host? with
  | none => fail (.unsupportedScheme endpoint.print endpoint.print)
  | some _ =>
    let reply ← fetch endpoint.print maxRedirects (c.request endpoint query)
    ofResult (interpret read endpoint.print reply)

end ReleaseBulletin.Forge
