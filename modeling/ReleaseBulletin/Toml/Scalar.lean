import ReleaseBulletin.Document.Tree
import ReleaseBulletin.Text.Affix
import ReleaseBulletin.Text.Digit
import ReleaseBulletin.Text.Radix
import ReleaseBulletin.Width

/-!
Unquoted scalars of TOML: truth values, numbers, dates and times.
-/
namespace ReleaseBulletin.Toml.Scalar
open Document Text Text.Affix Text.Digit

/-- Digits of a base, with single underscores between digits only. -/
def grouped? (isDigit : Char → Bool) (cs : List Char) : Option (List Char) :=
  let groups := split '_' cs
  if groups.all fun g => !g.isEmpty && g.all isDigit then some groups.flatten else none

def decimalDigits? (cs : List Char) : Option (List Char) := do
  let ds ← grouped? Char.isDigit cs
  match ds with
  | '0' :: _ :: _ => none
  | ds => some ds

def bounded? (i : Int) : Option Tree :=
  if Width.holdsSigned 64 i then some (.integer i) else none

/-- The integer that digits write in another base than ten. -/
def inBase? (base : Nat) (ds : List Char) : Option Tree := do
  let ds ← grouped? (Radix.isDigit base) ds
  bounded? (← Radix.natOf? base ds)

def integer? (cs : List Char) : Option Tree :=
  match cs with
  | '0' :: 'x' :: ds => inBase? 16 ds
  | '0' :: 'o' :: ds => inBase? 8 ds
  | '0' :: 'b' :: ds => inBase? 2 ds
  | cs =>
    let (negative, ds) := signed cs
    (decimalDigits? ds).bind fun ds =>
      let n : Int := Nat.ofDigitChars 10 ds 0
      bounded? (if negative then -n else n)

/-- The greatest exponent that is computed with; beyond it a number is zero or too large. -/
def exponentLimit : Nat := 5000

/-- The exponent after its letter: sign and digits, which may start with zeros. -/
def exponent? (cs : List Char) : Option Int := do
  let (negative, ds) := signed cs
  let ds ← grouped? Char.isDigit ds
  let n : Int := Nat.ofDigitChars 10 ds 0
  return if negative then -n else n

/-- The binary fraction of a number with a point or an exponent. -/
def decimal? (cs : List Char) : Option Tree := do
  let (negative, cs) := signed cs
  let sign (x : Float) : Tree := .decimal (if negative then -x else x)
  if cs = "inf".toList then return sign (1.0 / 0.0)
  if cs = "nan".toList then return sign (0.0 / 0.0)
  let isMark (c : Char) : Bool := c == 'e' || c == 'E'
  if !cs.any (fun c => c == '.' || isMark c) then none
  let front := cs.takeWhile (!isMark ·)
  let exponent ← match cs.dropWhile (!isMark ·) with
    | [] => some 0
    | _ :: ds => exponent? ds
  let whole ← decimalDigits? (front.takeWhile (· != '.'))
  let digits ← match front.dropWhile (· != '.') with
    | [] => some []
    | _ :: ds => grouped? Char.isDigit ds
  let shift := exponent - digits.length
  let n := Nat.ofDigitChars 10 (whole ++ digits) 0
  if n = 0 then return sign 0.0
  if exponentLimit < shift then none
  else if shift < -exponentLimit then return sign 0.0
  else
    let x := Float.ofScientific n (decide (shift < 0)) shift.natAbs
    if x.isInf then none else return sign x

/-- The number of exactly so many digits. -/
def fixed? (count : Nat) (cs : List Char) : Option Nat :=
  if cs.length = count ∧ cs.all Char.isDigit then some (Nat.ofDigitChars 10 cs 0) else none

def daysIn (year month : Nat) : Nat :=
  if month = 2 then
    if year % 4 = 0 ∧ (year % 100 ≠ 0 ∨ year % 400 = 0) then 29 else 28
  else if [4, 6, 9, 11].contains month then 30
  else 31

def isDate (cs : List Char) : Bool :=
  match split '-' cs with
  | [y, m, d] =>
    match fixed? 4 y, fixed? 2 m, fixed? 2 d with
    | some y, some m, some d => 1 ≤ m && m ≤ 12 && 1 ≤ d && d ≤ daysIn y m
    | _, _, _ => false
  | _ => false

/-- Whether a text is a number of two digits up to a bound. -/
def isPart (bound : Nat) (cs : List Char) : Bool := (fixed? 2 cs).any (· ≤ bound)

/-- Whether a text is a second, with a fraction or without. -/
def isSecond (cs : List Char) : Bool :=
  match split '.' cs with
  | [s] => isPart 60 s
  | [s, f] => isPart 60 s && !f.isEmpty && f.all Char.isDigit
  | _ => false

def isTime (cs : List Char) : Bool :=
  match split ':' cs with
  | [h, m, s] => isPart 23 h && isPart 59 m && isSecond s
  | _ => false

def isOffset (cs : List Char) : Bool :=
  match cs with
  | ['Z'] => true
  | ['z'] => true
  | c :: cs =>
    (c == '+' || c == '-') &&
      match split ':' cs with
      | [h, m] => isPart 23 h && isPart 59 m
      | _ => false
  | [] => false

/-- A character at which a time of day ends and its offset starts. -/
def startsOffset (c : Char) : Bool := c == 'Z' || c == 'z' || c == '+' || c == '-'

/-- Whether a text is a date, a time or both. -/
def isMoment (cs : List Char) : Bool :=
  isTime cs ||
    (isDate (cs.take 10) &&
      match cs.drop 10 with
      | [] => true
      | c :: rest =>
        (c == 'T' || c == 't' || c == ' ') &&
          isTime (rest.takeWhile (!startsOffset ·)) &&
          match rest.dropWhile (!startsOffset ·) with
          | [] => true
          | offset => isOffset offset)

def tree? (cs : List Char) : Option Tree :=
  if cs = "true".toList then some (.boolean true)
  else if cs = "false".toList then some (.boolean false)
  else if isMoment cs then some .moment
  else (integer? cs).or (decimal? cs)

def isScalarChar (c : Char) : Bool :=
  c.isAlphanum || c == '+' || c == '-' || c == '.' || c == '_' || c == ':'

/-- Whether a time of day seems to follow a date's space. -/
def timeFollows : List Char → Bool
  | ' ' :: a :: b :: ':' :: _ => a.isDigit && b.isDigit
  | _ => false

/-- Takes an unquoted scalar off the text. A space may stand between a date and a time. -/
def scan (cs : List Char) : Option (Tree × List Char) :=
  let word := cs.takeWhile isScalarChar
  let rest := cs.dropWhile isScalarChar
  if isDate word && timeFollows rest then
    let time := rest.tail.takeWhile isScalarChar
    (tree? (word ++ ' ' :: time)).map fun t => (t, rest.tail.dropWhile isScalarChar)
  else (tree? word).map fun t => (t, rest)

end ReleaseBulletin.Toml.Scalar
