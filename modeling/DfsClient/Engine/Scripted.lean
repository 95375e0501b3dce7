import DfsClient.Engine.Basic

/-! An engine that follows a script. It notes every request before it acts on
it, and then answers, fails or panics as the script says. It stands for any
engine that an embedder may bring. -/

namespace DfsClient.Scripted

/-- What a method does. Methods that cannot fail take a failure as success. -/
inductive Outcome where
  | succeed (n : Nat)
  | fail (status : Status)
  | panic (payload : Payload)
deriving DecidableEq, Repr

/-- Methods without an outcome succeed with zero. A connect that succeeds may
tell the session's observer of one event, whose response is then the result. -/
structure Script where
  outcomes : Method → Outcome := fun _ => .succeed 0
  event : Option Event := none

structure Session where
  observer : Option Observer := none

def attempt (request : Request) (scene : Scene Script) : Result Nat × Scene Script :=
  (match scene.world.outcomes request.method with
    | .succeed n => .ok n
    | .fail status => .failed status
    | .panic payload => .panicked payload,
    scene.emit (.requested request))

def run (request : Request) (scene : Scene Script) : Reply Unit × Scene Script :=
  match attempt request scene with
  | (.panicked payload, scene) => (.panicked payload, scene)
  | (.answered _, scene) => (.answered (), scene)

def dropService (scene : Scene Script) : Scene Script := scene.emit (.requested .dropService)

def newSession (user : String) (options : Options) (scene : Scene Script) :
    Reply (Option Session) × Scene Script :=
  match attempt (.newSession user options) scene with
  | (.answered (.ok _), scene) => (.answered (some {}), scene)
  | (.answered (.error _), scene) => (.answered none, dropService scene)
  | (.panicked payload, scene) => (.panicked payload, dropService scene)

def connect (request : Request) (session : Session) (scene : Scene Script) :
    Result Unit × Session × Scene Script :=
  match attempt request scene with
  | (.panicked payload, scene) => (.panicked payload, session, scene)
  | (.answered (.error status), scene) => (.failed status, session, scene)
  | (.answered (.ok _), scene) =>
    match scene.world.event with
    | none => (.ok (), session, scene)
    | some event =>
      match scene.tell? session.observer event with
      | (.proceed, scene) => (.ok (), session, scene)
      | (.fail status, scene) => (.failed status, session, scene)

/-- Reads leave the caller's buffer alone. -/
def transfer (request : Request) (scene : Scene Script) : Result Transfer × Scene Script :=
  match attempt request scene with
  | (.panicked payload, scene) => (.panicked payload, scene)
  | (.answered (.error status), scene) => (.failed status, scene)
  | (.answered (.ok n), scene) => (.ok ⟨n, []⟩, scene)

def engine : Engine where
  World := Script
  Service := Unit
  Session := Session
  File := Unit
  newService := run .newService
  newSession _ := newSession
  observeSession session observer scene :=
    let (reply, scene) := run .observeSession scene
    (reply, { session with observer := some observer }, scene)
  connect session host service := connect (.connect host service) session
  connectDefault := connect .connectDefault
  openFile session path scene :=
    match attempt (.openFile path) scene with
    | (.panicked payload, scene) => (.panicked payload, session, scene)
    | (.answered (.error status), scene) => (.failed status, session, scene)
    | (.answered (.ok _), scene) => (.ok (), session, scene)
  dropSession _ scene :=
    let (reply, scene) := run .dropSession scene
    (reply, dropService scene)
  abandonSession _ := dropService
  observeFile file _ scene :=
    let (reply, scene) := run .observeFile scene
    (reply, file, scene)
  read file length scene :=
    let (result, scene) := transfer (.read length) scene
    (result, file, scene)
  readAt file length offset scene :=
    let (result, scene) := transfer (.readAt length offset) scene
    (result, file, scene)
  seek file target scene :=
    let (result, scene) := attempt (.seek target) scene
    (result, file, scene)
  cancel file scene :=
    let (reply, scene) := run .cancel scene
    (reply, file, scene)
  dropFile _ := run .dropFile
  abandonFile _ scene := scene

end DfsClient.Scripted
