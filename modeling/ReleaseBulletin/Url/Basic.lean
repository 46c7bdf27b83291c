import ReleaseBulletin.Url.Host

/-!
URLs and their written form.
-/
namespace ReleaseBulletin
open Text.Affix

/-- Who serves a resource, and as which user it is asked for. User and password are encoded. -/
structure Url.Authority where
  user : String
  password : Option String
  host : Option Host
  port : Option Nat
  deriving DecidableEq, Repr

/-- The path of a URL: segments below the root, or an uninterpreted text. -/
inductive Url.Path where
  | segments (parts : List String)
  | bare (text : String)
  deriving DecidableEq, Repr

/-- A URL whose parts are encoded. -/
structure Url where
  scheme : String
  authority : Option Url.Authority
  path : Url.Path
  query : Option String
  fragment : Option String
  deriving DecidableEq, Repr

/-- The schemes whose URLs name a host and a path, with the ports they use by default. -/
def Url.webPorts : List (String × Nat) :=
  [("http", 80), ("https", 443), ("ws", 80), ("wss", 443), ("ftp", 21)]

def Url.defaultPort? (scheme : String) : Option Nat := webPorts.lookup scheme

def Url.isWeb (scheme : String) : Bool := (defaultPort? scheme).isSome

def Url.host? (u : Url) : Option Host := u.authority.bind (·.host)

def Url.Authority.userText (a : Authority) : List Char :=
  if a.user = "" ∧ a.password = none then []
  else
    a.user.toList ++ (match a.password with | some p => ':' :: p.toList | none => []) ++ ['@']

def Url.Authority.text (a : Authority) : List Char :=
  a.userText ++ (match a.host with | some h => h.text | none => []) ++
    (match a.port with | some p => ':' :: Nat.toDigits 10 p | none => [])

def Url.Path.text : Path → List Char
  | .segments parts => parts.flatMap fun s => '/' :: s.toList
  | .bare text => text.toList

def Url.resourceText (u : Url) : List Char :=
  u.scheme.toList ++ [':'] ++
    (match u.authority with | some a => '/' :: '/' :: a.text | none => []) ++ u.path.text

def Url.requestText (u : Url) : List Char :=
  u.resourceText ++ (match u.query with | some q => '?' :: q.toList | none => [])

def Url.text (u : Url) : List Char :=
  u.requestText ++ (match u.fragment with | some f => '#' :: f.toList | none => [])

def Url.print (u : Url) : String := String.ofList u.text

end ReleaseBulletin
