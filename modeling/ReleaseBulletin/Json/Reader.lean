import ReleaseBulletin.Json.Parser
import ReleaseBulletin.Json.Value

/-!
Reading JSON text as a value.
-/
namespace ReleaseBulletin.Json.Reader

def valueOf? (s : String) : Option Value := (Parser.parse s).bind (Value.ofTree? Value.maxDepth)

end ReleaseBulletin.Json.Reader
