import ReleaseBulletin.Text.Radix

/-!
Strings of TOML: basic strings with escapes and literal strings without, each on one line or on
several. `scan` functions start after the opening quotes.
-/
namespace ReleaseBulletin.Toml.Quoted
open Text.Radix

def isSpace (c : Char) : Bool := c == ' ' || c == '\t'

def isTextChar (c : Char) : Bool := c == '\t' || (0x20 ≤ c.toNat && c.toNat != 0x7F)

/-- The character whose code hexadecimal digits write. -/
def coded? (digits : List Char) : Option Char := do
  let n ← natOf? 16 digits
  if n < 0xD800 ∨ (0xDFFF < n ∧ n < 0x110000) then some (Char.ofNat n) else none

/-- The character of an escape of one letter. -/
def short? (c : Char) : Option Char :=
  match c with
  | 'b' => some '\x08'
  | 't' => some '\t'
  | 'n' => some '\n'
  | 'f' => some '\x0c'
  | 'r' => some '\r'
  | '"' => some '"'
  | '\\' => some '\\'
  | _ => none

/-- Puts a character in front of what was scanned after it. -/
def cons? (c : Option Char) (more : Option (List Char × List Char)) :
    Option (List Char × List Char) :=
  match c, more with
  | some c, some (cs, rest) => some (c :: cs, rest)
  | _, _ => none

def scanBasic : List Char → Option (List Char × List Char)
  | [] => none
  | '"' :: rest => some ([], rest)
  | '\\' :: 'u' :: a :: b :: c :: d :: rest => cons? (coded? [a, b, c, d]) (scanBasic rest)
  | '\\' :: 'U' :: a :: b :: c :: d :: e :: f :: g :: h :: rest =>
    cons? (coded? [a, b, c, d, e, f, g, h]) (scanBasic rest)
  | '\\' :: c :: rest => cons? (short? c) (scanBasic rest)
  | c :: rest => if isTextChar c && c != '\\' then cons? (some c) (scanBasic rest) else none

def scanLiteral : List Char → Option (List Char × List Char)
  | [] => none
  | '\'' :: rest => some ([], rest)
  | c :: rest => if isTextChar c then cons? (some c) (scanLiteral rest) else none

/-- The quotes right before the closing ones, two at most, and the text after all of them. -/
def closing (quote : Char) (rest : List Char) : List Char × List Char :=
  let extra := (rest.take 2).takeWhile (· == quote)
  (extra, rest.drop extra.length)

def endsLine (cs : List Char) : Bool := (cs.dropWhile isSpace).head? == some '\n'

/-- A basic string on several lines. After a backslash at the end of a line, white space and line
ends are skipped. -/
def scanBasicLines : Bool → List Char → Option (List Char × List Char)
  | _, [] => none
  | skipping, c :: rest =>
    if skipping && (isSpace c || c == '\n') then scanBasicLines true rest
    else if c = '"' then
      match rest with
      | '"' :: '"' :: rest => some (closing '"' rest)
      | rest => cons? (some c) (scanBasicLines false rest)
    else if c = '\\' then
      if endsLine rest then scanBasicLines true rest
      else
        match rest with
        | 'u' :: a :: b :: c :: d :: rest => cons? (coded? [a, b, c, d]) (scanBasicLines false rest)
        | 'U' :: a :: b :: c :: d :: e :: f :: g :: h :: rest =>
          cons? (coded? [a, b, c, d, e, f, g, h]) (scanBasicLines false rest)
        | e :: rest => cons? (short? e) (scanBasicLines false rest)
        | [] => none
    else if isTextChar c || c == '\n' then cons? (some c) (scanBasicLines false rest)
    else none

def scanLiteralLines : List Char → Option (List Char × List Char)
  | [] => none
  | '\'' :: '\'' :: '\'' :: rest => some (closing '\'' rest)
  | c :: rest =>
    if isTextChar c || c == '\n' then cons? (some c) (scanLiteralLines rest) else none

/-- The text after a line end right behind the opening quotes. -/
def dropFirstLineEnd : List Char → List Char
  | '\n' :: rest => rest
  | cs => cs

/-- Takes a string of any form off the text. -/
def scan : List Char → Option (List Char × List Char)
  | '"' :: '"' :: '"' :: rest => scanBasicLines false (dropFirstLineEnd rest)
  | '"' :: rest => scanBasic rest
  | '\'' :: '\'' :: '\'' :: rest => scanLiteralLines (dropFirstLineEnd rest)
  | '\'' :: rest => scanLiteral rest
  | _ => none

def escape (c : Char) : List Char :=
  if c = '"' then ['\\', '"']
  else if c = '\\' then ['\\', '\\']
  else if c.toNat < 0x20 ∨ c.toNat = 0x7F then
    ['\\', 'u', '0', '0', upperDigit (c.toNat / 16), upperDigit (c.toNat % 16)]
  else [c]

def quote (cs : List Char) : List Char := '"' :: cs.flatMap escape ++ ['"']

end ReleaseBulletin.Toml.Quoted
