import ReleaseBulletin.Text.Blank
import ReleaseBulletin.Text.Digit
import ReleaseBulletin.Text.Radix
import ReleaseBulletin.Width

/-!
The words of expressions: names, texts, numbers and marks.
-/
namespace ReleaseBulletin.Template
open Text Text.Blank

/-- A sign of one or two characters. -/
inductive Mark where
  | plus
  | minus
  | times
  | divide
  | floorDivide
  | remainder
  | power
  | concatenate
  | equal
  | different
  | less
  | atMost
  | greater
  | atLeast
  | assign
  | dot
  | comma
  | colon
  | bar
  | openParen
  | closeParen
  | openBracket
  | closeBracket
  | openBrace
  | closeBrace
  deriving DecidableEq, Repr

/-- A word. -/
inductive Token where
  | name (s : String)
  | text (s : String)
  | integer (n : Nat)
  | decimal (x : Float)
  | mark (m : Mark)
  deriving Repr

/-- By how much a mark changes the number of open brackets. -/
def Mark.opening : Mark → Int
  | .openParen => 1
  | .openBracket => 1
  | .openBrace => 1
  | .closeParen => -1
  | .closeBracket => -1
  | .closeBrace => -1
  | _ => 0

/-- The mark at the start of a text, the longest one. -/
def Token.mark? : List Char → Option (Mark × List Char)
  | '/' :: '/' :: rest => some (.floorDivide, rest)
  | '*' :: '*' :: rest => some (.power, rest)
  | '=' :: '=' :: rest => some (.equal, rest)
  | '!' :: '=' :: rest => some (.different, rest)
  | '>' :: '=' :: rest => some (.atLeast, rest)
  | '<' :: '=' :: rest => some (.atMost, rest)
  | '+' :: rest => some (.plus, rest)
  | '-' :: rest => some (.minus, rest)
  | '*' :: rest => some (.times, rest)
  | '/' :: rest => some (.divide, rest)
  | '%' :: rest => some (.remainder, rest)
  | '.' :: rest => some (.dot, rest)
  | ',' :: rest => some (.comma, rest)
  | ':' :: rest => some (.colon, rest)
  | '~' :: rest => some (.concatenate, rest)
  | '|' :: rest => some (.bar, rest)
  | '=' :: rest => some (.assign, rest)
  | '>' :: rest => some (.greater, rest)
  | '<' :: rest => some (.less, rest)
  | '(' :: rest => some (.openParen, rest)
  | ')' :: rest => some (.closeParen, rest)
  | '[' :: rest => some (.openBracket, rest)
  | ']' :: rest => some (.closeBracket, rest)
  | '{' :: rest => some (.openBrace, rest)
  | '}' :: rest => some (.closeBrace, rest)
  | _ => none

def Token.startsName (c : Char) : Bool := c == '_' || c.isAlpha

def Token.continuesName (c : Char) : Bool := c == '_' || c.isAlphanum

/-- The name at the start of a text. Names are in ASCII. -/
def Token.name? : List Char → Option (String × List Char)
  | c :: cs =>
    if startsName c then
      some (String.ofList (c :: cs.takeWhile continuesName), cs.dropWhile continuesName)
    else none
  | [] => none

/-- The character that a letter after a backslash stands for. -/
def Token.escaped? : Char → Option Char
  | '"' => some '"'
  | '\\' => some '\\'
  | '/' => some '/'
  | '\'' => some '\''
  | 'b' => some '\x08'
  | 'f' => some '\x0c'
  | 'n' => some '\n'
  | 'r' => some '\r'
  | 't' => some '\t'
  | _ => none

/-- Whether a unit is half of a pair for one character. -/
def Token.isHalf (u : Nat) : Bool := 0xD800 ≤ u && u < 0xE000

/-- The character of a pair, the first half of which comes first. -/
def Token.paired? (u v : Nat) : Option Char :=
  if u < 0xDC00 ∧ 0xDC00 ≤ v then some (Char.ofNat (0x10000 + (u - 0xD800) * 0x400 + (v - 0xDC00)))
  else none

/-- The characters that the inside of a quoted text stands for; `half` is the half of a pair that
waits for the other one. -/
def Token.unescape (half : Option Nat) : List Char → Option (List Char)
  | '\\' :: 'u' :: a :: b :: c :: d :: rest =>
    match Radix.natOf? 16 [a, b, c, d], half with
    | none, _ => none
    | some u, none =>
      if isHalf u then unescape (some u) rest else (unescape none rest).map (Char.ofNat u :: ·)
    | some v, some u =>
      if isHalf v then
        match paired? u v with
        | some ch => (unescape none rest).map (ch :: ·)
        | none => none
      else none
  | '\\' :: c :: rest =>
    if half.isSome then none
    else
      match escaped? c with
      | some ch => (unescape none rest).map (ch :: ·)
      | none => none
  | ['\\'] => none
  | c :: rest => if half.isSome then none else (unescape none rest).map (c :: ·)
  | [] => if half.isSome then none else some []

/-- The inside of a quoted text up to the closing quote, and what follows it. -/
def Token.inside? (quote : Char) : List Char → Option (List Char × List Char)
  | [] => none
  | '\\' :: c :: rest => (inside? quote rest).map fun (s, rest) => ('\\' :: c :: s, rest)
  | c :: rest =>
    if c = quote then some ([], rest)
    else if c = '\\' then none
    else (inside? quote rest).map fun (s, rest) => (c :: s, rest)

/-- The quoted text at the start of a text, the number of line ends in it, and what follows. -/
def Token.quoted? : List Char → Option (String × Nat × List Char)
  | c :: cs =>
    if c = '"' ∨ c = '\'' then do
      let (s, rest) ← inside? c cs
      let chars ← unescape none s
      return (String.ofList chars, s.count '\n', rest)
    else none
  | [] => none

/-- Whether a run of digits may go on with the character. -/
def Token.isDigitOrGap (c : Char) : Bool := c.isDigit || c == '_'

/-- Digits and gaps at the start of a text, and what follows. -/
def Token.spanDigits (cs : List Char) : List Char × List Char :=
  (cs.takeWhile isDigitOrGap, cs.dropWhile isDigitOrGap)

/-- The point with the digits after it; without a digit right after it, the point is no part of the
number. -/
def Token.fraction (cs : List Char) : List Char × List Char :=
  match cs with
  | '.' :: c :: rest =>
    if c.isDigit then
      let (ds, rest) := spanDigits (c :: rest)
      ('.' :: ds, rest)
    else ([], cs)
  | cs => ([], cs)

def Token.exponent (cs : List Char) : List Char × List Char :=
  match cs with
  | c :: rest =>
    if c = 'e' ∨ c = 'E' then
      let (gaps, rest) := (rest.takeWhile (· == '_'), rest.dropWhile (· == '_'))
      match rest with
      | s :: more =>
        if s = '+' ∨ s = '-' then
          let (ds, rest) := spanDigits more
          (c :: gaps ++ s :: ds, rest)
        else
          let (ds, rest) := spanDigits rest
          (c :: gaps ++ ds, rest)
      | [] => (c :: gaps, [])
    else ([], cs)
  | [] => ([], [])

/-- The digits without gaps, unless a gap ends them. -/
def Token.withoutGaps? (ds : List Char) : Option (List Char) :=
  if ds.getLast? = some '_' then none else some (ds.filter (· != '_'))

/-- One more than the greatest integer that can be written. -/
def Token.integerLimit : Nat := Width.count 128

def Token.natOf? (base : Nat) (ds : List Char) : Option Nat :=
  if ds.isEmpty then none else (Radix.natOf? base ds).filter (· < integerLimit)

/-- The exponent's value, which is cut off where it makes no difference. -/
def Token.exponentOf? (cs : List Char) : Option Int :=
  let (negative, ds) := Digit.signed cs
  if ds.isEmpty || !ds.all Char.isDigit then none
  else
    let n : Int := min (Nat.ofDigitChars 10 ds 0) 100000
    some (if negative then -n else n)

/-- The nearest binary fraction of digits with a point among them and a power of ten. -/
def Token.nearest (whole fraction : List Char) (exponent : Int) : Float :=
  let n := Nat.ofDigitChars 10 (whole ++ fraction) 0
  let e := exponent - fraction.length
  if n = 0 then 0.0
  else if 400 < e then 1.0 / 0.0
  else if e + (whole.length + fraction.length) < -400 then 0.0
  else Float.ofScientific n (decide (e < 0)) e.natAbs

/-- The binary fraction of a written number with a point or an exponent. -/
def Token.decimalOf? (cs : List Char) : Option Float :=
  let isMark (c : Char) : Bool := c == 'e' || c == 'E'
  let front := cs.takeWhile (!isMark ·)
  let whole := front.takeWhile (· != '.')
  let fraction := (front.dropWhile (· != '.')).drop 1
  match cs.dropWhile (!isMark ·) with
  | [] => some (nearest whole fraction 0)
  | _ :: ds => (exponentOf? ds).map (nearest whole fraction)

/-- The digits of a number in another base, and what follows. -/
def Token.inBase? (base : Nat) (isDigit : Char → Bool) (cs : List Char) :
    Option (Token × List Char) := do
  let ds ← withoutGaps? (cs.takeWhile fun c => isDigit c || c == '_')
  let n ← natOf? base ds
  return (.integer n, cs.dropWhile fun c => isDigit c || c == '_')

/-- The number at the start of a text that starts with a digit. -/
def Token.number? (cs : List Char) : Option (Token × List Char) :=
  match cs with
  | '0' :: 'b' :: rest => inBase? 2 Char.isDigit rest
  | '0' :: 'B' :: rest => inBase? 2 Char.isDigit rest
  | '0' :: 'o' :: rest => inBase? 8 Char.isDigit rest
  | '0' :: 'O' :: rest => inBase? 8 Char.isDigit rest
  | '0' :: 'x' :: rest => inBase? 16 (Radix.isDigit 16) rest
  | '0' :: 'X' :: rest => inBase? 16 (Radix.isDigit 16) rest
  | cs => do
    let (whole, rest) := spanDigits cs
    let (point, rest) := fraction rest
    let (power, rest) := exponent rest
    let ds ← withoutGaps? (whole ++ point ++ power)
    if point.isEmpty && power.isEmpty then return (.integer (← natOf? 10 ds), rest)
    else return (.decimal (← decimalOf? ds), rest)

/-- The word at the start of a text, the number of line ends in it, and what follows. -/
def Token.next? (cs : List Char) : Option (Token × Nat × List Char) :=
  match mark? cs with
  | some (m, rest) => some (.mark m, 0, rest)
  | none =>
    match name? cs with
    | some (s, rest) => some (.name s, 0, rest)
    | none =>
      match cs with
      | c :: _ =>
        if c.isDigit then (number? cs).map fun (t, rest) => (t, 0, rest)
        else (quoted? cs).map fun (s, lines, rest) => (.text s, lines, rest)
      | [] => none

end ReleaseBulletin.Template
