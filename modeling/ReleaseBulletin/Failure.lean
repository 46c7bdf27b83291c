import ReleaseBulletin.Bytes.Base64
import ReleaseBulletin.FileTree
import ReleaseBulletin.Template.Fault
import ReleaseBulletin.Text.Quoted
import ReleaseBulletin.Url.Fault

/-!
Why a release note cannot be made. Each failure is a cause; its kind and its text follow from it.
-/
namespace ReleaseBulletin

/-- The kinds of failures, by what has to be mended. -/
inductive Failure.Kind where
  | config
  | network
  | api
  | parse
  | lookup
  | render
  | io
  deriving DecidableEq, Repr

/-- A failure. An `endpoint` is the URL of a resource, a `request` the URL that was asked for. -/
inductive Failure where
  /-- Variables that the environment must set and does not. -/
  | missingVariables (names : List String)
  /-- The user has no directory to look for settings in. -/
  | unknownHome
  | invalidSettings (path : String)
  | invalidApiUrl (text : String) (fault : Url.Fault)
  /-- The API URL has no path to append to. -/
  | bareApiUrl (url : String)
  /-- The token has characters that no header can hold. -/
  | unsendableToken
  /-- No answer came. -/
  | unanswered (endpoint request : String)
  | unsupportedScheme (endpoint request : String)
  | tooManyRedirects (endpoint request : String)
  /-- The answer's body ended early. -/
  | answerCutShort (endpoint : String)
  /-- The answer has another status than success. -/
  | refused (endpoint : String) (status : Nat) (message : String)
  /-- The answer's body is not the expected document. -/
  | unexpectedAnswer (endpoint : String)
  /-- A page of a comparison is empty although commits are missing. -/
  | comparisonEnded (endpoint : String) (collected total : Nat)
  | unsupportedEncoding (path encoding : String)
  | invalidBase64 (path : String) (fault : Bytes.Base64.Fault)
  | invalidUtf8 (path : String) (fault : Bytes.Utf8.Fault)
  | invalidLockfile
  | invalidReport (path : String)
  | reportNotObject (path : String)
  | packageNotFound (name : String)
  | packageWithoutSource (name : String)
  | sourceWithoutRevision (name source : String)
  | noSpecVersion (path : String)
  | invalidTemplate
  | rendering (fault : Template.Fault) (line : Nat)
  | file (path : String) (fault : FileTree.Fault)
  deriving DecidableEq, Repr

def Failure.kind : Failure → Kind
  | .missingVariables _ => .config
  | .unknownHome => .config
  | .invalidSettings _ => .config
  | .invalidApiUrl _ _ => .config
  | .bareApiUrl _ => .config
  | .unsendableToken => .config
  | .unanswered _ _ => .network
  | .unsupportedScheme _ _ => .network
  | .tooManyRedirects _ _ => .network
  | .answerCutShort _ => .network
  | .refused _ _ _ => .api
  | .unexpectedAnswer _ => .parse
  | .comparisonEnded _ _ _ => .parse
  | .unsupportedEncoding _ _ => .parse
  | .invalidBase64 _ _ => .parse
  | .invalidUtf8 _ _ => .parse
  | .invalidLockfile => .parse
  | .invalidReport _ => .parse
  | .reportNotObject _ => .parse
  | .packageNotFound _ => .lookup
  | .packageWithoutSource _ => .lookup
  | .sourceWithoutRevision _ _ => .lookup
  | .noSpecVersion _ => .lookup
  | .invalidTemplate => .render
  | .rendering _ _ => .render
  | .file _ _ => .io

/-- What happened, without the kind. -/
def Failure.detail : Failure → String
  | .missingVariables names =>
    "missing required environment variables: " ++ String.intercalate ", " names
  | .unknownHome => "could not determine home directory"
  | .invalidSettings path => s!"failed to parse {path}: "
  | .invalidApiUrl text fault => "invalid API URL '" ++ text ++ "': " ++ fault.message
  | .bareApiUrl url => s!"API URL cannot be a base: {url}"
  | .unsendableToken => "access token is not a valid header value"
  | .unanswered endpoint request =>
    endpoint ++ ": error sending request for url (" ++ request ++ ")"
  | .unsupportedScheme endpoint request => endpoint ++ ": builder error for url (" ++ request ++ ")"
  | .tooManyRedirects endpoint request =>
    endpoint ++ ": error following redirect for url (" ++ request ++ ")"
  | .answerCutShort endpoint => s!"{endpoint}: failed to read body: error decoding response body"
  | .refused endpoint status message => s!"{endpoint} returned HTTP {status}: {message}"
  | .unexpectedAnswer endpoint => s!"{endpoint}: unexpected response body: "
  | .comparisonEnded endpoint collected total =>
    s!"{endpoint}: comparison ended after {collected} of {total} commits"
  | .unsupportedEncoding path encoding =>
    path ++ ": unsupported content encoding '" ++ encoding ++ "'"
  | .invalidBase64 path fault => path ++ ": invalid base64: " ++ fault.message
  | .invalidUtf8 path fault => path ++ ": not UTF-8: " ++ fault.message
  | .invalidLockfile => "invalid lockfile: "
  | .invalidReport path => s!"invalid srtool output {path}: "
  | .reportNotObject path => s!"srtool output {path} is not a JSON object"
  | .packageNotFound name => "package '" ++ name ++ "' not found in lockfile"
  | .packageWithoutSource name => "package '" ++ name ++ "' has no source in lockfile"
  | .sourceWithoutRevision name source =>
    "source of package '" ++ name ++ "' has no '#' revision: " ++ source
  | .noSpecVersion path => s!"no spec_version found in {path}"
  | .invalidTemplate => "invalid template: "
  | .rendering fault line => fault.message ++ " (in release:" ++ toString line ++ ")"
  | .file path fault => Text.Quoted.quotePath path ++ ": " ++ fault.message

def Failure.Kind.heading : Kind → String
  | .config => "config error: "
  | .network => "network error: "
  | .api => "API error: "
  | .parse => "parse error: "
  | .lookup => "lookup error: "
  | .render => "render error: "
  | .io => "I/O error at "

def Failure.message (f : Failure) : String := f.kind.heading ++ f.detail

/-- Whether the resource that was asked for does not exist. -/
def Failure.isNotFound : Failure → Bool
  | .refused _ status _ => status == 404
  | _ => false

end ReleaseBulletin
