import ReleaseBulletin.Url.Reader

/-!
URLs below a base: segments appended to its path and pairs appended to its query.
-/
namespace ReleaseBulletin.Url.Endpoint
open Reader

/-- The encoded form of an appended segment, in which nothing separates or ends a path. -/
def appendedText (web : Bool) (cs : List Char) : String :=
  let escaped := if web then Percent.webSegmentSet else Percent.segmentSet
  String.ofList (Percent.encode escaped (cs.filter (!isSkipped ·)))

/-- The segments of a path without an empty one at the end; the root keeps its own. -/
def withoutTrailingSlash (parts : List String) : List String :=
  if 1 < parts.length ∧ parts.getLast? = some "" then parts.dropLast else parts

/-- Appends a segment. A name of the directory itself or of the one above appends nothing. -/
def append (web : Bool) (parts : List String) (segment : String) : List String :=
  if segment = "." ∨ segment = ".." then parts
  else
    let front := if parts = [""] then [] else parts
    let text := appendedText web segment.toList
    if text = ".." then front.dropLast ++ [""]
    else if text = "." then front ++ [""]
    else front ++ [text]

/-- The URL with segments appended to its path; `none` when its path has no segments. -/
def below? (base : Url) (segments : List String) : Option Url :=
  match base.path with
  | .bare _ => none
  | .segments parts =>
    some { base with
      path := .segments (segments.foldl (append (isWeb base.scheme)) (withoutTrailingSlash parts)) }

/-- The URL with pairs appended to its query; an empty query is none. -/
def withPairs (u : Url) (pairs : List (String × String)) : Url :=
  let old := (u.query.getD "").toList
  let new := Percent.formPairs pairs
  let whole := if old.isEmpty || new.isEmpty then old ++ new else old ++ '&' :: new
  { u with query := if whole.isEmpty then none else some (String.ofList whole) }

end ReleaseBulletin.Url.Endpoint
