import DfsClient.Engine.Scripted
import DfsClient.Formats.Standard
import DfsClient.Proofs.CallJournal

/-! How a connect uses an engine, whatever the engine answers. It asks for a service, for a session with that
service, and has the observer attached that waits on the thread; then it makes one attempt with that session. -/

namespace DfsClient
open Boundary

variable {engine : Engine}

namespace Boundary

variable {observer : Option Observer} {errand : Errand} {user : String} {options : Options}
  {journal : List engine.Exchange} {got : Option engine.Session}

end Boundary

namespace Client

open scoped Formats.Standard

end Client
end DfsClient
