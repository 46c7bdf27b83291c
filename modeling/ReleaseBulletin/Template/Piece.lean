import ReleaseBulletin.Template.Token
import ReleaseBulletin.Text.Affix

/-!
Templates as sequences of pieces: literal text, printed expressions and statements. Comments and the
white space that tags take away are gone.

A statement or comment that is alone at the start of its line takes away the white space before it,
and it takes away the line end right after it. A minus sign inside a tag's bracket takes away all
white space on that side, a plus sign keeps it.
-/
namespace ReleaseBulletin.Template
open Text.Affix Text.Blank

/-- A word and the line that it starts in. -/
structure Word where
  token : Token
  line : Nat
  deriving Repr

/-- A part of a template. The line of a tag is the one that it starts in. -/
inductive Piece where
  | text (s : String)
  | print (line : Nat) (words : List Word)
  | statement (line : Nat) (words : List Word)
  deriving Repr

/-- What happens to the white space on one side of a tag. -/
inductive Piece.Trim where
  | usual
  | keep
  | all
  deriving DecidableEq, Repr

def Piece.Trim.ofSign : Char → Trim
  | '-' => .all
  | '+' => .keep
  | _ => .usual

/-- The kinds of tags. -/
inductive Piece.Kind where
  | print
  | statement
  | comment
  deriving DecidableEq, Repr

/-- The kind of tag that a character after an opening brace starts. -/
def Piece.Kind.ofChar? : Char → Option Kind
  | '{' => some .print
  | '%' => some .statement
  | '#' => some .comment
  | _ => none

def Piece.Kind.closing : Kind → List Char
  | .print => ['}', '}']
  | .statement => ['%', '}']
  | .comment => ['#', '}']

/-- Splits a text at its first tag: the text before, the kind of the tag and what follows its
opening bracket. -/
def Piece.splitTag : List Char → List Char × Option (Kind × List Char)
  | [] => ([], none)
  | '{' :: c :: rest =>
    match Kind.ofChar? c with
    | some k => ([], some (k, rest))
    | none =>
      let (lead, tag) := splitTag (c :: rest)
      ('{' :: lead, tag)
  | c :: rest =>
    let (lead, tag) := splitTag rest
    (c :: lead, tag)

def Piece.isLineEnd (c : Char) : Bool := c == '\n' || c == '\r'

/-- Whether a line has nothing but white space in it after more text; `fresh` says so of the text
before. -/
def Piece.stillFresh (fresh : Bool) (cs : List Char) : Bool :=
  cs.foldl (fun fresh c => if isLineEnd c then true else if isBlank c then fresh else false) fresh

/-- The text without the white space at the end of its last line, if that line has nothing else. -/
def Piece.withoutIndent (cs : List Char) : List Char :=
  let kept := (cs.reverse.dropWhile fun c => isBlank c && !isLineEnd c).reverse
  match kept.getLast? with
  | none => []
  | some c => if isLineEnd c then kept else cs

def Piece.trimBefore (kind : Kind) (trim : Trim) (fresh : Bool) (lead : List Char) : List Char :=
  match trim with
  | .all => trimEnd lead
  | .keep => lead
  | .usual => if kind ≠ .print ∧ stillFresh fresh lead then withoutIndent lead else lead

def Piece.spanLineEnd : List Char → List Char × List Char
  | '\r' :: '\n' :: rest => (['\r', '\n'], rest)
  | '\r' :: rest => (['\r'], rest)
  | '\n' :: rest => (['\n'], rest)
  | cs => ([], cs)

/-- Splits off what a tag takes away from the text after it. -/
def Piece.spanAfter (kind : Kind) (trim : Trim) (cs : List Char) : List Char × List Char :=
  match trim with
  | .all => (cs.takeWhile isBlank, cs.dropWhile isBlank)
  | .keep => ([], cs)
  | .usual => if kind = .print then ([], cs) else spanLineEnd cs

/-- A sign at the start of a text, and what follows. -/
def Piece.sign (cs : List Char) : Trim × List Char :=
  match cs with
  | '-' :: rest => (.all, rest)
  | '+' :: rest => (.keep, rest)
  | cs => (.usual, cs)

/-- The closing bracket at the start of a text, perhaps after a sign, and what follows. -/
def Piece.closing? (kind : Kind) (cs : List Char) : Option (Trim × List Char) :=
  let (trim, rest) := sign cs
  (after? kind.closing rest).map fun rest => (trim, rest)

/-- The words of a tag up to its closing bracket, which brackets that are open hide; the treatment
of what follows, the line of the end, and what follows. -/
def Piece.words (kind : Kind) : Nat → Int → Nat → List Char →
    Option (List Word × Trim × Nat × List Char)
  | 0, _, _, _ => none
  | fuel + 1, depth, line, cs =>
    let line := line + (cs.takeWhile isAsciiBlank).count '\n'
    let cs := cs.dropWhile isAsciiBlank
    match (if depth = 0 then closing? kind cs else none) with
    | some (trim, rest) => some ([], trim, line, rest)
    | none =>
      match Token.next? cs with
      | none => none
      | some (t, lines, rest) =>
        let change := match t with
          | .mark m => m.opening
          | _ => 0
        (words kind fuel (depth + change) (line + lines) rest).map fun (ws, more) =>
          (⟨t, line⟩ :: ws, more)

/-- The statement that is only a word, after the opening bracket: the treatment of what follows it,
and what follows. -/
def Piece.soleWord? (word : List Char) (cs : List Char) : Option (Trim × List Char) :=
  match after? word (cs.dropWhile isAsciiBlank) with
  | none => none
  | some rest => closing? .statement (rest.dropWhile isAsciiBlank)

/-- The text up to the statement that ends raw text, that statement's two treatments, and what
follows. -/
def Piece.raw? : List Char → Option (List Char × Trim × Trim × List Char)
  | '{' :: '%' :: rest =>
    let (before, inner) := sign rest
    match soleWord? "endraw".toList inner with
    | some (after, rest) => some ([], before, after, rest)
    | none => (raw? rest).map fun (s, more) => ('{' :: '%' :: s, more)
  | c :: rest => (raw? rest).map fun (s, more) => (c :: s, more)
  | [] => none

/-- Raw text after the treatments of the statements around it. -/
def Piece.trimRaw (first last : Trim) (cs : List Char) : List Char :=
  let cs := (spanAfter .statement first cs).2
  match last with
  | .all => trimEnd cs
  | .keep => cs
  | .usual => withoutIndent cs

/-- The text up to the end of a comment, and what follows. -/
def Piece.comment? : List Char → Option (List Char × List Char)
  | '#' :: '}' :: rest => some ([], rest)
  | c :: rest => (comment? rest).map fun (s, rest) => (c :: s, rest)
  | [] => none

/-- The treatment that a comment's last character asks for. -/
def Piece.commentTrim (body : List Char) : Trim :=
  match body.getLast? with
  | some c => Trim.ofSign c
  | none => .usual

/-- A piece of text, unless it is empty. -/
def Piece.textPiece (cs : List Char) : List Piece :=
  if cs.isEmpty then [] else [.text (String.ofList cs)]

/-- The number of line ends between a text and a later part of it. -/
def Piece.linesBetween (cs rest : List Char) : Nat := cs.count '\n' - rest.count '\n'

/-- A tag taken off a text after its opening bracket: its piece, the treatment of what follows, the
line of its end, and what follows. -/
def Piece.tag? (kind : Kind) (line : Nat) (cs : List Char) :
    Option (List Piece × Trim × Nat × List Char) :=
  match kind with
  | .comment =>
    (comment? cs).map fun (body, rest) => ([], commentTrim body, line + body.count '\n', rest)
  | .print =>
    (words .print (cs.length + 1) 0 line cs).map fun (ws, more) => ([.print line ws], more)
  | .statement =>
    match soleWord? "raw".toList cs with
    | some (first, rest) =>
      (raw? rest).map fun (s, last, after, rest) =>
        (textPiece (trimRaw first last s), after, line + linesBetween cs rest, rest)
    | none =>
      (words .statement (cs.length + 1) 0 line cs).map fun (ws, more) =>
        ([.statement line ws], more)

def Piece.pieces : Nat → Bool → Nat → List Char → Option (List Piece)
  | 0, _, _, _ => none
  | fuel + 1, fresh, line, cs =>
    match splitTag cs with
    | (lead, none) => some (textPiece lead)
    | (lead, some (kind, rest)) =>
      let (trim, inner) := sign rest
      match tag? kind (line + lead.count '\n') inner with
      | none => none
      | some (piece, after, line, rest) =>
        let (passed, rest) := spanAfter kind after rest
        (pieces fuel (stillFresh false passed) (line + passed.count '\n') rest).map fun more =>
          textPiece (trimBefore kind trim fresh lead) ++ piece ++ more

def Piece.ofTemplate? (source : String) : Option (List Piece) :=
  pieces (source.toList.length + 1) true 1 source.toList

end ReleaseBulletin.Template
