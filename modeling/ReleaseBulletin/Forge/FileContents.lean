import ReleaseBulletin.Document.Record
import ReleaseBulletin.Failure
import ReleaseBulletin.Text.Blank

/-!
Files as the forge sends them: a payload with its encoding.
-/
namespace ReleaseBulletin.Forge
open Document Document.Record

/-- A file at some reference. -/
structure FileContents where
  path : String
  /-- Base64 in lines, if the encoding says so. -/
  content : String
  /-- `base64`, or another word when the file is too large to be sent. -/
  encoding : String
  deriving DecidableEq, Repr

def FileContents.ofTree? (t : Tree) : Option FileContents :=
  match fields? .refused ["path", "content", "encoding"] t with
  | some [path, content, encoding] => do
    return {
      path := ← required Tree.text? path
      content := ← orElse "" Tree.text? content
      encoding := ← orElse "" Tree.text? encoding }
  | _ => none

/-- The payload without the white space that wraps it, as bytes. -/
def FileContents.symbols (f : FileContents) : Bytes :=
  Bytes.Utf8.encode (f.content.toList.filter (!Text.Blank.isAsciiBlank ·))

def FileContents.decode (f : FileContents) : Except Failure Bytes :=
  if f.encoding ≠ "base64" then .error (.unsupportedEncoding f.path f.encoding)
  else
    match Bytes.Base64.decode f.symbols with
    | .ok bytes => .ok bytes
    | .error fault => .error (.invalidBase64 f.path fault)

def FileContents.decodeText (f : FileContents) : Except Failure String :=
  match f.decode with
  | .error e => .error e
  | .ok bytes =>
    match Bytes.Utf8.decodeString bytes with
    | .ok s => .ok s
    | .error fault => .error (.invalidUtf8 f.path fault)

end ReleaseBulletin.Forge
