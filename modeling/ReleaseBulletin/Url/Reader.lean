import ReleaseBulletin.Url.Basic

/-!
Reading a URL. Blanks and controls around the text do not belong to it, and tabs and line ends
inside are skipped.
-/
namespace ReleaseBulletin.Url.Reader
open Host Text.Affix

/-- A character that is skipped inside a URL. -/
def isSkipped (c : Char) : Bool := c == '\t' || c == '\n' || c == '\r'

/-- A character that is cut off at the ends. -/
def isOutside (c : Char) : Bool := c.toNat ≤ 0x20

/-- The characters of the text that count. -/
def relevant (cs : List Char) : List Char :=
  (((cs.dropWhile isOutside).reverse.dropWhile isOutside).reverse).filter (!isSkipped ·)

def isSchemeChar (c : Char) : Bool := c.isAlphanum || c == '+' || c == '-' || c == '.'

/-- The scheme, in lower case, and the text after its colon. -/
def scheme? (cs : List Char) : Option (String × List Char) :=
  if cs.head?.any Char.isAlpha then
    match cs.dropWhile isSchemeChar with
    | ':' :: rest => some (String.ofList ((cs.takeWhile isSchemeChar).map Char.toLower), rest)
    | _ => none
  else none

def isSlash (web : Bool) (c : Char) : Bool := c == '/' || (web && c == '\\')

def endsAuthority (web : Bool) (c : Char) : Bool := isSlash web c || c == '?' || c == '#'

/-- The part before the last at sign and the part after it. -/
def splitUser (cs : List Char) : Option (List Char × List Char) :=
  match cs.reverse.dropWhile (· != '@') with
  | [] => none
  | _ :: front => some (front.reverse, (cs.reverse.takeWhile (· != '@')).reverse)

/-- The user and the password before the at sign. An empty password is none. -/
def userParts (cs : List Char) : String × Option String :=
  let user := cs.takeWhile (· != ':')
  let password := (cs.dropWhile (· != ':')).tail
  let encoded (part : List Char) : String := String.ofList (Percent.encode Percent.userSet part)
  (encoded user, if password.isEmpty then none else some (encoded password))

/-- The length of the host in a text: it ends before a colon outside brackets. -/
def hostLength : Bool → List Char → Nat
  | _, [] => 0
  | inside, c :: rest =>
    if c = ':' ∧ inside = false then 0
    else hostLength (if c = '[' then true else if c = ']' then false else inside) rest + 1

/-- The port that digits write; none for no digits and for the scheme's own port. -/
def port (scheme : String) (cs : List Char) : Except Fault (Option Nat) :=
  if cs.all Char.isDigit then
    let n := Nat.ofDigitChars 10 cs 0
    if 65535 < n then .error .invalidPort
    else if cs.isEmpty || defaultPort? scheme = some n then .ok none
    else .ok (some n)
  else .error .invalidPort

def hostAndPort (scheme : String) (cs : List Char) : Except Fault (Option Host × Option Nat) := do
  let web := isWeb scheme
  let n := hostLength false cs
  let hostText := cs.take n
  let rest := cs.drop n
  if web && hostText.isEmpty then throw .emptyHost
  let host ← if web then ofWeb hostText else ofOther hostText
  if host = .name "" then
    if rest.head? = some ':' then throw .emptyHost
    return (none, none)
  match rest with
  | ':' :: digits => return (some host, ← port scheme digits)
  | _ => return (some host, none)

def authority (scheme : String) (cs : List Char) : Except Fault Authority :=
  match splitUser cs with
  | none => do
    let (host, port) ← hostAndPort scheme cs
    return ⟨"", none, host, port⟩
  | some (userText, rest) => do
    let (user, password) := userParts userText
    if rest.isEmpty then throw .emptyHost
    let (host, port) ← hostAndPort scheme rest
    if host.isNone && (user != "" || password.isSome) then throw .emptyHost
    return ⟨user, password, host, port⟩

def isSingleDot (s : List Char) : Bool :=
  [".", "%2e"].any fun dot => s.map Char.toLower == dot.toList

def isDoubleDot (s : List Char) : Bool :=
  ["..", "%2e%2e", "%2e.", ".%2e"].any fun dots => s.map Char.toLower == dots.toList

def segmentText (s : List Char) : String := String.ofList (Percent.encode Percent.pathSet s)

/-- The segments of a path for those written after the ones that stand already, in reverse. -/
def place : List String → List (List Char) → List String
  | done, [] => done.reverse
  | done, [s] =>
    if isDoubleDot s then ("" :: done.tail).reverse
    else if isSingleDot s then ("" :: done).reverse
    else (segmentText s :: done).reverse
  | done, s :: rest =>
    if isDoubleDot s then place done.tail rest
    else if isSingleDot s then place done rest
    else place (segmentText s :: done) rest

def pathParts (web : Bool) (cs : List Char) : List (List Char) :=
  split '/' (cs.map fun c => if isSlash web c then '/' else c)

/-- The path, query and fragment of a text. -/
structure Tail where
  path : List Char
  query : Option String
  fragment : Option String

/-- Cuts a text into path, query and fragment. -/
def tail (web : Bool) (cs : List Char) : Tail :=
  let fragment := match cs.dropWhile (· != '#') with
    | [] => none
    | _ :: f => some (String.ofList (Percent.encode Percent.fragmentSet f))
  let front := cs.takeWhile (· != '#')
  let query := match front.dropWhile (· != '?') with
    | [] => none
    | _ :: q =>
      let escaped := if web then Percent.webQuerySet else Percent.querySet
      some (String.ofList (Percent.encode escaped q))
  ⟨front.takeWhile (· != '?'), query, fragment⟩

/-- The path after an authority; a web address has the root at least. -/
def pathAfterHost (web : Bool) (cs : List Char) : List String :=
  match cs with
  | [] => if web then [""] else []
  | c :: rest => place [] (pathParts web (if isSlash web c then rest else c :: rest))

def withAuthority (scheme : String) (cs : List Char) : Except Fault Url := do
  let web := isWeb scheme
  let a ← authority scheme (cs.takeWhile (!endsAuthority web ·))
  let t := tail web (cs.dropWhile (!endsAuthority web ·))
  return ⟨scheme, some a, .segments (pathAfterHost web t.path), t.query, t.fragment⟩

/-- The host of a file's URL; the local host is no host. -/
def fileHost (cs : List Char) : Except Fault (Option Host) :=
  if cs.isEmpty then .ok none
  else (ofWeb cs).map fun h => if h = .name "localhost" then none else some h

/-- The URL of a file, after its scheme. -/
def ofFile (cs : List Char) : Except Fault Url := do
  match cs with
  | c :: d :: rest =>
    if isSlash true c && isSlash true d then
      let host ← fileHost (rest.takeWhile (!endsAuthority true ·))
      let t := tail true (rest.dropWhile (!endsAuthority true ·))
      return ⟨"file", some ⟨"", none, host, none⟩, .segments (pathAfterHost true t.path), t.query,
        t.fragment⟩
    else
      let t := tail true (c :: d :: rest)
      return ⟨"file", some ⟨"", none, none, none⟩, .segments (pathAfterHost true t.path), t.query,
        t.fragment⟩
  | cs =>
    let t := tail true cs
    return ⟨"file", some ⟨"", none, none, none⟩, .segments (pathAfterHost true t.path), t.query,
      t.fragment⟩

/-- A URL without a host, after its scheme. -/
def ofPlain (scheme : String) (cs : List Char) : Url :=
  let t := tail false cs
  match t.path with
  | '/' :: rest => ⟨scheme, none, .segments (place [] (pathParts false rest)), t.query, t.fragment⟩
  | path => ⟨scheme, none, .bare (String.ofList (Percent.encode [] path)), t.query, t.fragment⟩

/-- The URL with the given scheme and the text after the colon. -/
def ofScheme (scheme : String) (cs : List Char) : Except Fault Url :=
  if scheme = "file" then ofFile cs
  else if isWeb scheme then withAuthority scheme (cs.dropWhile (isSlash true))
  else
    match cs with
    | '/' :: '/' :: rest => withAuthority scheme rest
    | cs => .ok (ofPlain scheme cs)

def read (s : String) : Except Fault Url :=
  match scheme? (relevant s.toList) with
  | none => .error .relative
  | some (scheme, rest) => ofScheme scheme rest

def readRelative (base : Url) (cs : List Char) : Except Fault Url :=
  let web := isWeb base.scheme
  let t := tail web cs
  match cs with
  | c :: d :: rest =>
    if isSlash web c && isSlash web d then withAuthority base.scheme rest
    else if isSlash web c then
      let path := place [] (pathParts web t.path.tail)
      .ok { base with path := .segments path, query := t.query, fragment := t.fragment }
    else below base t web
  | [c] =>
    if isSlash web c then .ok { base with path := .segments [""], query := none, fragment := none }
    else below base t web
  | [] => .ok { base with fragment := none }
where
  below (base : Url) (t : Tail) (web : Bool) : Except Fault Url :=
    match base.path with
    | .bare _ => .error .relative
    | .segments parts =>
      if t.path.isEmpty then
        .ok { base with query := t.query.orElse fun _ => base.query, fragment := t.fragment }
      else
        .ok { base with
          path := .segments (place parts.dropLast.reverse (pathParts web t.path))
          query := t.query, fragment := t.fragment }

def resolve (base : Url) (s : String) : Except Fault Url :=
  let cs := relevant s.toList
  match scheme? cs with
  | none => readRelative base cs
  | some (scheme, rest) =>
    if scheme = base.scheme && isWeb scheme && (rest.takeWhile (isSlash true)).length < 2 then
      readRelative base rest
    else ofScheme scheme rest

end ReleaseBulletin.Url.Reader
