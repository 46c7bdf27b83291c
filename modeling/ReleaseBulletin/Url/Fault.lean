/-!
Why a text is no URL.
-/
namespace ReleaseBulletin.Url

/-- What is wrong with a text that should be an absolute URL. -/
inductive Fault where
  | relative
  | emptyHost
  | invalidPort
  | invalidDomain
  | invalidAddress4
  | invalidAddress6
  | invalidHostCharacter
  deriving DecidableEq, Repr

def Fault.message : Fault → String
  | .relative => "relative URL without a base"
  | .emptyHost => "empty host"
  | .invalidPort => "invalid port number"
  | .invalidDomain => "invalid international domain name"
  | .invalidAddress4 => "invalid IPv4 address"
  | .invalidAddress6 => "invalid IPv6 address"
  | .invalidHostCharacter => "invalid domain character"

end ReleaseBulletin.Url
