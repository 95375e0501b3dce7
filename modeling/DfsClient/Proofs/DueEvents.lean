import DfsClient.Client.Call
import DfsClient.Engine.Memory.Session
import DfsClient.Proofs.Notices
import DfsClient.Proofs.Utf8

/-! The events that are due. What a call announces to its observer follows from its arguments and
from what the client holds when it is made, whatever comes of it. -/

namespace DfsClient
open Boundary

/-- A text with a NUL inside arrives empty, every other text as it is. -/
def arriving (text : String) : String := if '\x00' ∈ text.toList then "" else text

/-- An event as its handler is told of it. -/
def Event.arrived (event : Event) : Event :=
  ⟨arriving event.name, arriving event.cluster, event.file.map arriving, event.value⟩

theorem Event.deliver_eq (event : Event) : event.deliver = event.arrived := by
  have same : crossing = arriving := by
    funext text
    simp only [crossing, arriving, List.contains_eq_mem, decide_eq_true_eq]
  unfold deliver arrived
  rw [same]

/-- What is told of an event that is due, if there is an observer across the boundary. -/
def noticesOf : Option Observer → Option Event → List Notice
  | some (.handler monitor), some event => [⟨monitor, event.arrived⟩]
  | _, _ => []

theorem noticesOf_none (observer : Option Observer) : noticesOf observer none = [] := by
  match observer with
  | none => rfl
  | some (.handler monitor) => rfl
  | some (.embedded tag response) => rfl

namespace Memory

/-- The name under which an address is announced: that of the cluster an engine has there, or else
the host. -/
def World.nameAt (world : World) (id : EngineId) (host : String) (port : UInt16) : String :=
  match world.reach? id host port with
  | some cluster => (world.clusters cluster).name
  | none => host

/-- The address that these options configure. -/
def configured? (options : Options) : Option (String × UInt16) :=
  options.defaultFs.bind fun url => url.host?.map fun host => (host, url.port?.getD 8020)

/-- The address that an endpoint stands for, under these options. -/
def address? (options : Options) : Endpoint → Option (String × UInt16)
  | .explicit host port => some (host, port)
  | .defaultFs => configured? options

/-- The address that host and port stand for, of which both may be left out. -/
def addressOf? (options : Options) : Option String → Option UInt16 → Option (String × UInt16)
  | none, none => configured? options
  | host, port => some (host.getD "", port.getD 8020)

theorem address?_resolve (options : Options) (host : Option String) (port : Option UInt16) :
    address? options (.resolve host port) = addressOf? options host port := by
  cases host <;> cases port <;> rfl

namespace World

/-- The event that is due when an engine's session connects to an address. -/
def connecting (world : World) (id : EngineId) (host : String) (port : UInt16) : Event :=
  ⟨"NN::connect", world.nameAt id host port, none, 0⟩

/-- The event that is due when an engine's session connects, if there is an address to connect to. -/
def dueAt? (world : World) (id : EngineId) (address : Option (String × UInt16)) : Option Event :=
  address.map fun (host, port) => world.connecting id host port

/-- The event that is due when an engine's session connects to an endpoint. -/
def dueConnect? (world : World) (id : EngineId) (options : Options) (endpoint : Endpoint) : Option Event :=
  world.dueAt? id (address? options endpoint)

theorem dueConnect?_resolve (world : World) (id : EngineId) (options : Options) (host : Option String)
    (port : Option UInt16) :
    world.dueConnect? id options (.resolve host port) = world.dueAt? id (addressOf? options host port) :=
  congrArg (world.dueAt? id) (address?_resolve options host port)

end World

namespace Session

/-- The event that is due when a file is opened. -/
def dueOpen? (session : Session) (world : World) : Option Event :=
  session.cluster.map fun id => ⟨"NN::read", (world.clusters id).name, none, 0⟩

end Session

/-- The event that is due when so much is read at an offset. -/
def File.dueRead? (file : File) (length offset : Nat) : Option Event :=
  if file.canceled then none
  else some ⟨"DN::read", file.cluster, some file.path,
    Int64.ofNat (min length (file.length - min offset file.length))⟩

end Memory

namespace Boundary

/-- The room that a caller grants, with a buffer for it unless there is none. -/
def granted? (length : Int32) (present : Bool) : Option Nat :=
  if 0 ≤ length.toInt ∧ (length.toInt = 0 ∨ present = true) then some length.toInt.toNat else none

/-- A place from which a caller wants so much. -/
def grantedAt? (position : Int64) (length : Int32) (present : Bool) : Option (Nat × Nat) :=
  if 0 ≤ position.toInt then (granted? length present).map (Prod.mk position.toInt.toNat) else none

theorem toOption_room (length : Int32) (present : Bool) : (room length present).toOption = granted? length present := by
  unfold room granted?
  split
  next negative =>
    rw [if_neg (by omega)]
    rfl
  next fits =>
    split
    next missing =>
      rw [if_neg (by simp [missing.2]; omega)]
      rfl
    next given =>
      rw [if_pos (by cases present <;> simp at given ⊢ <;> omega)]
      rfl

theorem roomAt_of_nonneg {position : Int64} (inside : ¬position.toInt < 0) (length : Int32) (present : Bool) :
    roomAt position length present = (room length present).map (Prod.mk position.toInt.toNat) := by
  have start : offset "position" position = .ok position.toInt.toNat := if_neg inside
  unfold roomAt
  rw [start]
  cases room length present <;> rfl

theorem toOption_roomAt (position : Int64) (length : Int32) (present : Bool) :
    (roomAt position length present).toOption = grantedAt? position length present := by
  unfold grantedAt?
  rw [← toOption_room]
  by_cases negative : position.toInt < 0
  · have refused : offset "position" position = .error (.negative "position") := if_pos negative
    unfold roomAt
    rw [refused, if_neg (by omega)]
    rfl
  · rw [roomAt_of_nonneg negative, if_pos (by omega)]
    cases room length present <;> rfl

end Boundary

namespace Boundary.Caller
open Memory

/-- The event that is due when a thread connects to an endpoint that it names. -/
def dueConnect? (world : World) (host : Given) (port : UInt16) (user : Given) : Option Event :=
  match optionalOf? host, optionalOf? user with
  | some host, some _ => world.dueAt? world.installed (addressOf? {} host (if port = 0 then none else some port))
  | _, _ => none

/-- The event that is due when a thread connects as a builder says. -/
def dueBuilder? [Formats] (world : World) (builder : Option Builder) : Option Event :=
  builder.bind fun builder => world.dueAt? world.installed (addressOf? builder.options builder.host builder.port)

/-- The event that is due when a file is opened, if all is in order. -/
def dueOpen? (world : World) (session : Option engine.Session) (path : Given) : Option Event :=
  match session, textOf? path with
  | some session, some _ => Session.dueOpen? session world
  | _, _ => none

/-- The event that is due when a file is used, if all is in order. -/
def dueUse? {α : Type} (session : Option engine.Session) (file : Option engine.File)
    (arguments : Option α) (due : engine.File → α → Option Event) : Option Event :=
  match session, file, arguments with
  | some _, some held, some argument => due held argument
  | _, _, _ => none

theorem dueUse?_none {α : Type} (session : Option engine.Session) (file : Option engine.File)
    (arguments : Option α) : dueUse? session file arguments (fun _ _ => none) = none := by
  unfold dueUse?
  split
  · rfl
  · rfl

end Boundary.Caller

namespace Client
open Memory

/-- The event that is due for a call. Only connects, opens and reads have one. -/
def due? [Formats] (client : Client engine) : Call → Option Event
  | .connect host port user _ => Caller.dueConnect? client.scene.world host port user
  | .connectBuilder builder _ => Caller.dueBuilder? client.scene.world (client.builders.find? builder)
  | .openFile session path _ => Caller.dueOpen? client.scene.world (client.sessions.find? session) path
  | .read session file length present =>
    Caller.dueUse? (client.sessions.find? session) (client.files.find? file) (granted? length present)
      fun held count => File.dueRead? held count (File.position held)
  | .readAt session file position length present =>
    Caller.dueUse? (client.sessions.find? session) (client.files.find? file) (grantedAt? position length present)
      fun held place => File.dueRead? held place.2 place.1
  | _ => none

end Client
end DfsClient
