import DfsClient.Status
import DfsClient.Text.Utf8

/-! Events of sessions and files, and the observers that are told of them. An
observer may make the operation that caused the event fail. -/

namespace DfsClient

/-- Names under which events are known. -/
structure EventNames where
  connect : String
  read : String
  write : String

/-- Events of the name node, which sessions cause. -/
def sessionEvents : EventNames := ⟨"NN::connect", "NN::read", "NN::write"⟩

/-- Events of the data nodes, which files cause. -/
def fileEvents : EventNames := ⟨"DN::connect", "DN::read", "DN::write"⟩

structure Event where
  name : String
  cluster : String
  file : Option String := none
  value : Int64
deriving DecidableEq, Repr

/-- Text with a NUL inside does not cross the boundary and arrives empty. -/
def crossing (text : String) : String := if text.toList.contains '\x00' then "" else text

def Event.deliver (event : Event) : Event where
  name := crossing event.name
  cluster := crossing event.cluster
  file := event.file.map crossing
  value := event.value

inductive Response where
  | proceed
  | fail (status : Status)
deriving DecidableEq, Repr

/-- The number with which a handler across the boundary asks for a failure. -/
def failureReply : Int32 := -1

/-- What a handler's number means. Unknown numbers let the operation run. -/
def Response.ofReply (reply : Int32) : Response :=
  if reply = failureReply then .fail (.error "Simulated error") else .proceed

/-- What a caller attaches to be told of events: a handler function, known by its
address, and the cookie that the handler gets along with every event. -/
structure Monitor where
  function : UInt64
  cookie : Int64
deriving DecidableEq, Repr

/-- A handler across the boundary is known by its monitor. An embedder's own
observer is known by its tag and always responds alike. -/
inductive Observer where
  | handler (monitor : Monitor)
  | embedded (tag : String) (response : Response)
deriving DecidableEq, Repr

end DfsClient
