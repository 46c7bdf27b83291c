import ReleaseBulletin.Text.Affix
import ReleaseBulletin.Text.Blank
import ReleaseBulletin.Text.CaseMap

/-!
What filters do with texts.
-/
namespace ReleaseBulletin.Template.Wording
open Text.Affix Text.Blank Text.CaseMap

/-- Whether a character is a sign of ASCII, neither letter, digit nor blank. -/
def isPunctuation (c : Char) : Bool :=
  33 ≤ c.toNat && c.toNat ≤ 126 && !c.isAlphanum

/-- The text with each word's first character in upper and its others in lower case; `start` says
that a word may start. -/
def titled (start : Bool) : List Char → List Char
  | [] => []
  | c :: rest =>
    if isPunctuation c || isBlank c then c :: titled true rest
    else (if start then upperChar c else lowerChar c) ++ titled false rest

def escapeChar : Char → List Char
  | '<' => "&lt;".toList
  | '>' => "&gt;".toList
  | '&' => "&amp;".toList
  | '"' => "&quot;".toList
  | '\'' => "&#x27;".toList
  | '/' => "&#x2f;".toList
  | c => [c]

def trimChars (drop : List Char) (cs : List Char) : List Char :=
  ((cs.dropWhile drop.contains).reverse.dropWhile drop.contains).reverse

/-- The text with each occurrence of another one, from the left, replaced. -/
def replaceFrom (old new : List Char) : Nat → List Char → List Char
  | 0, cs => cs
  | _ + 1, [] => []
  | fuel + 1, c :: cs =>
    match after? old (c :: cs) with
    | some rest => new ++ replaceFrom old new fuel rest
    | none => c :: replaceFrom old new fuel cs

/-- The text with each occurrence of another one replaced. The empty text occurs around every
character. -/
def replaceAll (old new cs : List Char) : List Char :=
  if old.isEmpty then new ++ cs.flatMap fun c => c :: new
  else replaceFrom old new (cs.length + 1) cs

def withoutLastLineEnd (cs : List Char) : List Char :=
  let cs := if cs.getLast? = some '\n' then cs.dropLast else cs
  if cs.getLast? = some '\r' then cs.dropLast else cs

/-- A line with the indentation in front of it; a blank one only if asked. -/
def indentLine (indent : List Char) (blank : Bool) (line : List Char) : List Char :=
  if line.isEmpty then (if blank then indent else []) else indent ++ line

/-- The lines with the indentation in front of them, except perhaps the first one. -/
def indented (width : Nat) (first blank : Bool) (cs : List Char) : List Char :=
  let indent := List.replicate width ' '
  let lines := match split '\n' (withoutLastLineEnd cs) with
    | [] => []
    | line :: rest =>
      (if first then indentLine indent blank line else line) :: rest.map (indentLine indent blank)
  withoutLastLineEnd (lines.flatMap (· ++ ['\n']))

end ReleaseBulletin.Template.Wording
