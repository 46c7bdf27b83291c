import ReleaseBulletin.Json.Numeral
import ReleaseBulletin.Json.Quoted

/-!
Reading JSON text into a tree. Members keep their order and repetitions, so that the tree shows all
that the text says; strings and numbers without a value become unreadable leaves.
-/
namespace ReleaseBulletin.Json.Parser
open Document

def isSpace (c : Char) : Bool := c == ' ' || c == '\n' || c == '\t' || c == '\r'

/-- The text after white space. -/
def skip (cs : List Char) : List Char := cs.dropWhile isSpace

def textLeaf (es : List Quoted.Element) : Tree :=
  match Quoted.text? es with
  | some cs => .text (String.ofList cs)
  | none => .unreadable

/-- A member's key and the text after its colon. -/
def key (cs : List Char) : Option (Option String × List Char) :=
  match skip cs with
  | '"' :: rest =>
    match Quoted.scan rest with
    | some (es, rest) =>
      match skip rest with
      | ':' :: rest => some ((Quoted.text? es).map String.ofList, rest)
      | _ => none
    | none => none
  | _ => none

mutual

def value : Nat → List Char → Option (Tree × List Char)
  | 0, _ => none
  | fuel + 1, cs =>
    match skip cs with
    | 'n' :: 'u' :: 'l' :: 'l' :: rest => some (.null, rest)
    | 't' :: 'r' :: 'u' :: 'e' :: rest => some (.boolean true, rest)
    | 'f' :: 'a' :: 'l' :: 's' :: 'e' :: rest => some (.boolean false, rest)
    | '"' :: rest => (Quoted.scan rest).map fun (es, rest) => (textLeaf es, rest)
    | '[' :: rest =>
      match skip rest with
      | ']' :: rest => some (.list [], rest)
      | rest => (elements fuel rest).map fun (items, rest) => (.list items, rest)
    | '{' :: rest =>
      match skip rest with
      | '}' :: rest => some (.table [], rest)
      | rest => (members fuel rest).map fun (ms, rest) => (.table ms, rest)
    | rest => (Numeral.scan rest).map fun (n, rest) => (n.tree, rest)

/-- Takes the values of a list up to its closing bracket. -/
def elements : Nat → List Char → Option (List Tree × List Char)
  | 0, _ => none
  | fuel + 1, cs =>
    match value fuel cs with
    | none => none
    | some (v, rest) =>
      match skip rest with
      | ',' :: rest => (elements fuel rest).map fun (vs, rest) => (v :: vs, rest)
      | ']' :: rest => some ([v], rest)
      | _ => none

/-- Takes the members of a table up to its closing brace. -/
def members : Nat → List Char → Option (List (Option String × Tree) × List Char)
  | 0, _ => none
  | fuel + 1, cs =>
    match key cs with
    | none => none
    | some (k, rest) =>
      match value fuel rest with
      | none => none
      | some (v, rest) =>
        match skip rest with
        | ',' :: rest => (members fuel rest).map fun (ms, rest) => ((k, v) :: ms, rest)
        | '}' :: rest => some ([(k, v)], rest)
        | _ => none

end

/-- The tree of a text that is one JSON value. Two units of fuel for each character are enough: a
step down either takes a character or goes from a list to its first value. -/
def parse (s : String) : Option Tree :=
  match value (2 * s.toList.length + 2) s.toList with
  | some (t, rest) => if (skip rest).isEmpty then some t else none
  | none => none

end ReleaseBulletin.Json.Parser
