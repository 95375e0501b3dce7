import DfsClient.Boundary.Argument
import DfsClient.Boundary.Builder

/-! Connecting, opening and releasing: whatever brings handles into being or
ends them. The observer that waits in the thread's slots is attached before the
engine is asked for more, and stays in the slots. -/

namespace DfsClient.Boundary

variable {engine : Engine}

def observeSession (session : engine.Session) (observer : Option Observer)
    (scene : Scene engine.World) : Reply Unit × engine.Session × Scene engine.World :=
  match observer with
  | some observer => engine.observeSession session observer scene
  | none => (.answered (), session, scene)

def observeFile (file : engine.File) (observer : Option Observer) (scene : Scene engine.World) :
    Reply Unit × engine.File × Scene engine.World :=
  match observer with
  | some observer => engine.observeFile file observer scene
  | none => (.answered (), file, scene)

def reach (session : engine.Session) (endpoint : Endpoint) (scene : Scene engine.World) :
    Result Unit × engine.Session × Scene engine.World :=
  match endpoint with
  | .defaultFs => engine.connectDefault session scene
  | .explicit host port => engine.connect session host (toString port.toNat) scene

def connectingNote (endpoint : Endpoint) (user : Option String) : Trace :=
  ⟨.debug, "connecting", ("endpoint", endpoint.describe) ::
    match user with
    | some user => [("user", user)]
    | none => []⟩

namespace Caller

/-- Releases a session while a panic is under way, then reports the panic. -/
def abandonSession (caller : Caller engine.World) (session : engine.Session) (payload : Payload) :
    Caller engine.World :=
  { caller with scene := engine.abandonSession session caller.scene }.record (.panicked payload)

def abandonFile (caller : Caller engine.World) (file : engine.File) (payload : Payload) :
    Caller engine.World :=
  { caller with scene := engine.abandonFile file caller.scene }.record (.panicked payload)

def releaseSession (caller : Caller engine.World) (session : engine.Session) :
    Option Unit × Caller engine.World :=
  let (reply, scene) := engine.dropSession session caller.scene
  { caller with scene }.finish reply

def releaseFile (caller : Caller engine.World) (file : engine.File) :
    Option Unit × Caller engine.World :=
  let (reply, scene) := engine.dropFile file caller.scene
  { caller with scene }.finish reply

/-- Connects a fresh session. A failure is reported before the session is released. -/
def establish (caller : Caller engine.World) (session : engine.Session) (endpoint : Endpoint)
    (user : Option String) : Option engine.Session × Caller engine.World :=
  match observeSession session caller.slots.sessionObserver caller.scene with
  | (.panicked payload, session, scene) =>
    (none, { caller with scene }.abandonSession session payload)
  | (.answered (), session, scene) =>
    match reach session endpoint (scene.trace (connectingNote endpoint user)) with
    | (.answered (.ok ()), session, scene) => (some session, { caller with scene })
    | (.answered (.error status), session, scene) =>
      (none, (({ caller with scene }.reportStatus status).releaseSession session).2)
    | (.panicked payload, session, scene) =>
      (none, { caller with scene }.abandonSession session payload)

def connect (caller : Caller engine.World) (endpoint : Endpoint) (user : Option String)
    (options : Options) : Option engine.Session × Caller engine.World :=
  let (reply, scene) := engine.createSession (user.getD "") options caller.scene
  match { caller with scene }.finish reply with
  | (none, caller) => (none, caller)
  | (some none, caller) => (none, caller.record (.refused .noSession))
  | (some (some session), caller) => caller.establish session endpoint user

def connectDirect (caller : Caller engine.World) (host : Given) (port : UInt16) (user : Given) :
    Option engine.Session × Caller engine.World :=
  match optionalText "nn" host with
  | .error fault => (none, caller.record (.refused fault))
  | .ok host =>
    match optionalText "user" user with
    | .error fault => (none, caller.record (.refused fault))
    | .ok user => caller.connect (.resolve host (portOverride port)) user {}

def connectBuilder [Formats] (caller : Caller engine.World) :
    Option Builder → Option engine.Session × Caller engine.World
  | none => (none, caller.record (.refused .nullBuilder))
  | some builder =>
    let (options, scene) := caller.scene.optionsOf builder.snapshot
    { caller with scene }.connect builder.endpoint builder.user options

def disconnect (caller : Caller engine.World) :
    Option engine.Session → Option Unit × Caller engine.World
  | none => (none, caller.record (.refused .nullDisconnect))
  | some session => caller.releaseSession session

def adoptFile (caller : Caller engine.World) (file : engine.File) :
    Option engine.File × Caller engine.World :=
  match observeFile file caller.slots.fileObserver caller.scene with
  | (.answered (), file, scene) => (some file, { caller with scene })
  | (.panicked payload, file, scene) => (none, { caller with scene }.abandonFile file payload)

def openFile (caller : Caller engine.World) (session : Option engine.Session) (path : Given) :
    Option engine.File × Option engine.Session × Caller engine.World :=
  match session with
  | none => (none, none, caller.record (.refused .nullSession))
  | some session =>
    match requiredText "path" path with
    | .error fault => (none, some session, caller.record (.refused fault))
    | .ok path =>
      let (result, session, scene) := engine.openFile session path caller.scene
      match { caller with scene }.settle result with
      | (none, caller) => (none, some session, caller)
      | (some file, caller) =>
        let (file, caller) := caller.adoptFile file
        (file, some session, caller)

end Caller
end DfsClient.Boundary
