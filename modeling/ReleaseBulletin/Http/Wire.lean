import ReleaseBulletin.Http.Fetch
import ReleaseBulletin.Text.Blank
import ReleaseBulletin.Text.Digit
import ReleaseBulletin.Text.Radix

/-!
Messages as they go over a connection that the other side closes after its reply.
-/
namespace ReleaseBulletin.Http.Wire
open Text.Affix

/-- The part of a URL that the server is asked for. -/
def place (u : Url) : List Char :=
  u.path.text ++ (match u.query with | some q => '?' :: q.toList | none => [])

/-- The host with the port, if it is not the one of the scheme. -/
def hostText (u : Url) : List Char :=
  match u.authority with
  | some a => { a with user := "", password := none }.text
  | none => []

/-- The lines of a request. -/
def lines (r : Request) : List String :=
  ["GET " ++ String.ofList (place r.url) ++ " HTTP/1.1",
   "host: " ++ String.ofList (hostText r.url),
   "connection: close"] ++
    r.headers.filterMap fun (name, value) => value.map fun v => name ++ ": " ++ v

/-- The bytes of a request: its lines and an empty one. -/
def requestBytes (r : Request) : Bytes :=
  Bytes.Utf8.encodeString (String.join ((lines r ++ [""]).map (· ++ "\r\n")))

/-- The first line, for one whose bytes so far are given from the last to the first, and what is
after it. A carriage return at its end does not belong to it. -/
def firstLine? (line : Bytes) : Bytes → Option (Bytes × Bytes)
  | [] => none
  | b :: rest =>
    if b = 10 then some ((if line.head? = some 13 then line.tail else line).reverse, rest)
    else firstLine? (b :: line) rest

/-- The lines up to an empty one, at most so many, and what is after that. -/
def headLines? : Nat → Bytes → Option (List Bytes × Bytes)
  | 0, _ => none
  | room + 1, bytes =>
    match firstLine? [] bytes with
    | none => none
    | some ([], rest) => some ([], rest)
    | some (line, rest) => (headLines? room rest).map fun (ls, body) => (line :: ls, body)

/-- The characters of a line. -/
def characters (line : Bytes) : List Char := Bytes.Utf8.decodeLenient line

/-- The status in the first line of a reply. -/
def status? (line : Bytes) : Option Nat := do
  let rest ← after? "HTTP/1.".toList (characters line)
  let rest ← afterFirst? ' ' rest
  Text.Digit.natBelow? 1000 (rest.takeWhile (· != ' '))

/-- The name of a header in lower case, and its value. -/
def header? (line : Bytes) : Option (List Char × List Char) :=
  let cs := characters line
  (afterFirst? ':' cs).map fun value =>
    ((cs.takeWhile (· != ':')).map Char.toLower, Text.Blank.trim value)

def hexNumber? (cs : List Char) : Option Nat :=
  if cs.isEmpty then none else Text.Radix.natOf? 16 cs

def chunkSize? (line : Bytes) : Option Nat :=
  hexNumber? (Text.Blank.trim ((characters line).takeWhile (· != ';')))

/-- The content of at most so many chunks, and whether the last one was among them. -/
def unchunk : Nat → Bytes → Bytes × Bool
  | 0, _ => ([], false)
  | room + 1, bytes =>
    match firstLine? [] bytes with
    | none => ([], false)
    | some (line, rest) =>
      match chunkSize? line with
      | none => ([], false)
      | some 0 => ([], true)
      | some n =>
        match firstLine? [] (rest.drop n) with
        | some ([], further) =>
          let (content, complete) := unchunk room further
          (rest.take n ++ content, complete)
        | _ => (rest.take n, false)

/-- The body after the headers, and whether it came to its end. Without a length it ends with the
connection. -/
def body? (headers : List (List Char × List Char)) (bytes : Bytes) : Option (Bytes × Bool) :=
  if (headers.lookup "transfer-encoding".toList).isSome then some (unchunk bytes.length bytes)
  else
    match headers.lookup "content-length".toList with
    | none => some (bytes, true)
    | some value => (Text.Digit.natOf? value).map fun n => (bytes.take n, n ≤ bytes.length)

def isBodiless (status : Nat) : Bool := status == 204 || status == 304

def isInterim (status : Nat) : Bool := 100 ≤ status && status < 200

/-- The reply in all that came over a connection, after at most so many announcements. -/
def reply? : Nat → Bytes → Option Reply
  | 0, _ => none
  | room + 1, bytes =>
    match headLines? bytes.length bytes with
    | some (first :: fields, rest) =>
      match status? first with
      | none => none
      | some status =>
        if isInterim status then reply? room rest
        else
          let headers := fields.filterMap header?
          let location := (headers.lookup "location".toList).map String.ofList
          if isBodiless status then some ⟨status, location, [], true⟩
          else (body? headers rest).map fun (body, complete) => ⟨status, location, body, complete⟩
    | _ => none

/-- What became of a request whose connection brought the bytes. -/
def contact (bytes : Bytes) : Contact :=
  match reply? bytes.length bytes with
  | some reply => .answered reply
  | none => .silent

end ReleaseBulletin.Http.Wire
