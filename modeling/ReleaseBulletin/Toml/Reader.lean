import ReleaseBulletin.Toml.Quoted
import ReleaseBulletin.Toml.Scalar
import ReleaseBulletin.Toml.Table

/-!
Reading TOML text: a sequence of statements, each of which adds to the tables built so far.
-/
namespace ReleaseBulletin.Toml.Reader
open Document Table

/-- Lists, inline tables and dotted keys nest less deep than this. -/
def depthLimit : Nat := 80

/-- The text with every line end as one line feed; other carriage returns may not occur. -/
def unifyLineEnds : List Char → Option (List Char)
  | [] => some []
  | '\r' :: '\n' :: cs => (unifyLineEnds cs).map ('\n' :: ·)
  | c :: cs => if c = '\r' then none else (unifyLineEnds cs).map (c :: ·)

/-- The text after white space on the line. -/
def skip (cs : List Char) : List Char := cs.dropWhile Quoted.isSpace

/-- The text after white space, line ends and comments; the flag tells whether a comment is open. -/
def skipLines : Bool → List Char → Option (List Char)
  | _, [] => some []
  | false, c :: cs =>
    if Quoted.isSpace c || c == '\n' then skipLines false cs
    else if c = '#' then skipLines true cs
    else some (c :: cs)
  | true, c :: cs =>
    if c = '\n' then skipLines false cs
    else if Quoted.isTextChar c then skipLines true cs
    else none

/-- The text after the rest of a line, which may hold a comment. -/
def lineEnd (cs : List Char) : Option (List Char) :=
  match skip cs with
  | [] => some []
  | '\n' :: cs => some cs
  | '#' :: cs =>
    if (cs.takeWhile (· != '\n')).all Quoted.isTextChar then some ((cs.dropWhile (· != '\n')).tail)
    else none
  | _ => none

def isBareChar (c : Char) : Bool := c.isAlphanum || c == '-' || c == '_'

def keyPart (cs : List Char) : Option (String × List Char) :=
  match skip cs with
  | '"' :: rest => (Quoted.scanBasic rest).map fun (k, rest) => (String.ofList k, skip rest)
  | '\'' :: rest => (Quoted.scanLiteral rest).map fun (k, rest) => (String.ofList k, skip rest)
  | cs =>
    match cs.takeWhile isBareChar with
    | [] => none
    | k => some (String.ofList k, skip (cs.dropWhile isBareChar))

/-- Takes a key with at most so many parts off the text: the parts in front, and the last one. -/
def key : Nat → List Char → Option (List String × String × List Char)
  | 0, _ => none
  | parts + 1, cs =>
    match keyPart cs with
    | none => none
    | some (k, '.' :: rest) =>
      (key parts rest).map fun (path, last, rest) => (k :: path, last, rest)
    | some (k, rest) => some ([], k, rest)

/-- The key and the text after its equals sign. -/
def assigned (cs : List Char) : Option (List String × String × List Char) :=
  match key (depthLimit - 1) cs with
  | some (path, last, '=' :: rest) => some (path, last, skip rest)
  | _ => none

mutual

/-- Takes a value off the text; it may nest as deep as the given depth. -/
def value : Nat → Nat → List Char → Option (Tree × List Char)
  | 0, _, _ => none
  | fuel + 1, depth, cs =>
    match cs with
    | '[' :: rest =>
      match depth with
      | 0 => none
      | depth + 1 =>
        match skipLines false rest with
        | none => none
        | some (']' :: rest) => some (.list [], rest)
        | some rest => (elements fuel depth rest).map fun (items, rest) => (.list items, rest)
    | '{' :: rest =>
      match depth with
      | 0 => none
      | depth + 1 =>
        match skip rest with
        | '}' :: rest => some (.table [], rest)
        | rest =>
          (pairs fuel depth [] rest).map fun (entries, rest) => (.table (members entries), rest)
    | '"' :: _ => (Quoted.scan cs).map fun (s, rest) => (.text (String.ofList s), rest)
    | '\'' :: _ => (Quoted.scan cs).map fun (s, rest) => (.text (String.ofList s), rest)
    | cs => Scalar.scan cs

/-- Takes the values of a list up to its closing bracket; a comma may stand after the last one. -/
def elements : Nat → Nat → List Char → Option (List Tree × List Char)
  | 0, _, _ => none
  | fuel + 1, depth, cs =>
    match value fuel depth cs with
    | none => none
    | some (v, rest) =>
      match skipLines false rest with
      | some (']' :: rest) => some ([v], rest)
      | some (',' :: rest) =>
        match skipLines false rest with
        | none => none
        | some (']' :: rest) => some ([v], rest)
        | some rest => (elements fuel depth rest).map fun (vs, rest) => (v :: vs, rest)
      | _ => none

/-- Takes the pairs of an inline table up to its closing brace, adding them to the entries. -/
def pairs : Nat → Nat → Entries → List Char → Option (Entries × List Char)
  | 0, _, _, _ => none
  | fuel + 1, depth, es, cs =>
    match assigned cs with
    | none => none
    | some (path, last, rest) =>
      match value fuel depth rest with
      | none => none
      | some (v, rest) =>
        match assign .declared path last v es with
        | none => none
        | some es =>
          match skip rest with
          | '}' :: rest => some (es, rest)
          | ',' :: rest => pairs fuel depth es rest
          | _ => none

end

/-- A statement of a document. -/
inductive Statement where
  /-- The table that the pairs after it belong to. -/
  | header (path : List String) (last : String)
  /-- One more table of a list. -/
  | item (path : List String) (last : String)
  | pair (path : List String) (last : String) (value : Tree)

def statement (cs : List Char) : Option (Statement × List Char) :=
  match cs with
  | '[' :: '[' :: rest =>
    match key (depthLimit - 1) rest with
    | some (path, last, ']' :: ']' :: rest) => some (.item path last, rest)
    | _ => none
  | '[' :: rest =>
    match key (depthLimit - 1) rest with
    | some (path, last, ']' :: rest) => some (.header path last, rest)
    | _ => none
  | cs =>
    match assigned cs with
    | none => none
    | some (path, last, rest) =>
      (value (2 * rest.length + 2) (depthLimit - 1) rest).map fun (v, rest) =>
        (.pair path last v, rest)

/-- The statements of a text, one unit of fuel for each. -/
def statements : Nat → List Char → Option (List Statement)
  | 0, _ => none
  | fuel + 1, cs =>
    match skipLines false cs with
    | none => none
    | some [] => some []
    | some cs =>
      match statement cs with
      | none => none
      | some (s, rest) =>
        match lineEnd rest with
        | none => none
        | some rest => (statements fuel rest).map (s :: ·)

/-- The tables built so far, and the keys of the table that pairs go to. -/
structure Progress where
  entries : Entries
  current : List String

def Progress.step (p : Progress) : Statement → Option Progress
  | .header path last =>
    (alongHeader path (open? last) p.entries).map fun es => ⟨es, path ++ [last]⟩
  | .item path last =>
    (alongHeader path (openItem? last) p.entries).map fun es => ⟨es, path ++ [last]⟩
  | .pair path last value =>
    (alongHeader p.current (assign .declared path last value) p.entries).map fun es =>
      { p with entries := es }

/-- The text after a byte order mark. -/
def dropMark : List Char → List Char
  | c :: cs => if c.toNat = 0xFEFF then cs else c :: cs
  | [] => []

def parse (s : String) : Option Tree := do
  let cs ← unifyLineEnds (dropMark s.toList)
  let ss ← statements (cs.length + 1) cs
  let p ← ss.foldlM Progress.step ⟨[], []⟩
  return .table (members p.entries)

end ReleaseBulletin.Toml.Reader
