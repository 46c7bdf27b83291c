import ReleaseBulletin.Text.Affix
import ReleaseBulletin.Text.Digit
import ReleaseBulletin.Width

/-!
The change requests that commit messages name. Only a message's first line, its subject, counts. The
subject of a merge commit names its request directly; any other names it by the last number sign in
parentheses, since earlier ones tell where a change was picked from.
-/
namespace ReleaseBulletin.Change.Subject
open Text.Affix Text.Digit

/-- The text before the first line feed, without a carriage return right before that. -/
def subject (message : List Char) : List Char :=
  match message.dropWhile (· != '\n') with
  | [] => message
  | _ :: _ =>
    let line := message.takeWhile (· != '\n')
    if line.getLast? = some '\r' then line.dropLast else line

/-- Digits of any script at the start of a text, at least one, and the text after them. -/
def digits? (cs : List Char) : Option (List Char × List Char) :=
  match cs.takeWhile isDecimal with
  | [] => none
  | ds => some (ds, cs.dropWhile isDecimal)

def merged? (subject : List Char) : Option (List Char) := do
  let rest ← after? "Merge pull request #".toList subject
  let (ds, rest) ← digits? rest
  let _ ← after? " from ".toList rest
  return ds

def referenceAt? (cs : List Char) : Option (List Char) := do
  let rest ← after? ['(', '#'] cs
  let (ds, rest) ← digits? rest
  let _ ← after? [')'] rest
  return ds

def lastReference? : List Char → Option (List Char)
  | [] => none
  | c :: cs => (lastReference? cs).or (referenceAt? (c :: cs))

/-- One more than the greatest number of a change request. -/
def limit : Nat := Width.count 64

/-- The change request that a message names. Digits that write no number of 64 bits name none, and
no other reference is taken in their place. -/
def number? (message : List Char) : Option Nat :=
  let s := subject message
  ((merged? s).or (lastReference? s)).bind (natBelow? limit)

/-- The first occurrences of numbers that do not stand among those seen. -/
def distinct (seen : List Nat) : List Nat → List Nat
  | [] => []
  | n :: ns => if n ∈ seen then distinct seen ns else n :: distinct (n :: seen) ns

/-- The change requests that messages name, each at its first occurrence. -/
def numbers (messages : List String) : List Nat :=
  distinct [] (messages.filterMap fun m => number? m.toList)

end ReleaseBulletin.Change.Subject
