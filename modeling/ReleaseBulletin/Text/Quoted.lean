import ReleaseBulletin.Text.Visible

/-!
Quoted texts: between double quotes, with the characters that do not stand for themselves escaped.
A path is quoted as a text is, and its single quotes are escaped as well.
-/
namespace ReleaseBulletin.Text.Quoted
open Visible

def hex (n : Nat) : List Char := Nat.toDigits 16 n

/-- A character by its code point in braces. -/
def byCode (c : Char) : List Char := ['\\', 'u', '{'] ++ hex c.toNat ++ ['}']

/-- The written form of one character; `single` says whether a single quote is escaped. -/
def escape (single : Bool) (c : Char) : List Char :=
  if c = '\x00' then ['\\', '0']
  else if c = '\t' then ['\\', 't']
  else if c = '\n' then ['\\', 'n']
  else if c = '\r' then ['\\', 'r']
  else if c = '\\' then ['\\', '\\']
  else if c = '"' then ['\\', '"']
  else if c = '\'' then if single then ['\\', '\''] else ['\'']
  else if 0x20 ≤ c.toNat && c.toNat < 0x7F || isVisible c then [c]
  else byCode c

def quote (s : String) : String :=
  String.ofList (['"'] ++ s.toList.flatMap (escape false) ++ ['"'])

def quotePath (s : String) : String :=
  String.ofList (['"'] ++ s.toList.flatMap (escape true) ++ ['"'])

end ReleaseBulletin.Text.Quoted
