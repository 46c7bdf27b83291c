import ReleaseBulletin.Text.Affix
import ReleaseBulletin.Text.Blank
import ReleaseBulletin.Text.Digit
import ReleaseBulletin.Width

/-!
The version that a runtime's source declares. A declaration is the name of the field, a colon and a
number, with nothing but white space before it on its line; the first declaration counts.
-/
namespace ReleaseBulletin.ChainRuntime.SpecVersion
open Text.Affix Text.Blank Text.Digit

/-- The name of the field with its colon. -/
def keyword : List Char := "spec_version:".toList

/-- The digits of a declaration that starts after the white space in front. -/
def declared? (cs : List Char) : Option (List Char) :=
  match after? keyword (trimStart cs) with
  | none => none
  | some rest =>
    match (trimStart rest).takeWhile isDecimal with
    | [] => none
    | digits => some digits

/-- The digits of the first declaration; the flag tells whether the text starts a line. -/
def first? : Bool → List Char → Option (List Char)
  | _, [] => none
  | true, c :: cs => (declared? (c :: cs)).or (first? (c == '\n') cs)
  | false, c :: cs => first? (c == '\n') cs

/-- One more than the greatest version. -/
def limit : Nat := Width.count 32

/-- The version that a source declares. A first declaration whose digits write no version hides
those after it. -/
def ofSource? (source : String) : Option Nat :=
  (first? true source.toList).bind (natBelow? limit)

end ReleaseBulletin.ChainRuntime.SpecVersion
