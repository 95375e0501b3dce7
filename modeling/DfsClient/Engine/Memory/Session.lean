import DfsClient.Engine.Basic
import DfsClient.Engine.Memory.File
import DfsClient.Engine.Memory.World
import DfsClient.Boundary.Endpoint

/-! Sessions of the memory engine, and the engine itself. A session is bound to
a cluster by a successful connect and stays bound to it until the next one. -/

namespace DfsClient.Memory

structure Session where
  engine : EngineId
  user : String
  options : Options
  cluster : Option ClusterId := none
  observer : Option Observer := none

def port? (service : String) : Option UInt16 :=
  match Text.unsigned? (Text.trim service).toList with
  | some n => if n ≤ 65535 then some (UInt16.ofNat n) else none
  | none => none

namespace Session

/-- Connects to an endpoint. The observer is told before it is known whether
anything listens there and whether the user may enter. -/
def connectTo (session : Session) (host : String) (port : UInt16) (scene : Scene World) :
    Result Unit × Session × Scene World :=
  let place := endpoint host port
  let scene := scene.log .info .fileSystem ("Connecting to " ++ place ++ " as '" ++ session.user ++ "'")
  let reached := scene.world.reach? session.engine host port
  let name := match reached with
    | some id => (scene.world.clusters id).name
    | none => host
  match scene.tell? session.observer ⟨sessionEvents.connect, name, none, 0⟩ with
  | (.fail status, scene) => (.failed status, session, scene)
  | (.proceed, scene) =>
    match reached with
    | none =>
      (.failed (.resourceUnavailable ("Unable to connect to " ++ place)), session,
        scene.log .warning .rpc ("No namenode listening at " ++ place))
    | some id =>
      if (scene.world.clusters id).denies session.user then
        (.failed (.permissionDenied ("Permission denied: user=" ++ session.user)), session, scene)
      else (.ok (), { session with cluster := some id }, scene)

def connect (session : Session) (host service : String) (scene : Scene World) :
    Result Unit × Session × Scene World :=
  match port? service with
  | none => (.failed (.invalidArgument ("Invalid port: " ++ service)), session, scene)
  | some port => session.connectTo host port scene

/-- Connects to the configured default, at the usual port if it names none. -/
def connectDefault (session : Session) (scene : Scene World) : Result Unit × Session × Scene World :=
  match session.options.defaultFs with
  | none => (.failed (.invalidArgument "fs.defaultFS is not configured"), session, scene)
  | some url =>
    match url.host? with
    | none =>
      (.failed (.invalidArgument ("fs.defaultFS has no host: " ++ url.render)), session, scene)
    | some host =>
      session.connect host (toString (url.port?.getD Boundary.defaultPort).toNat) scene

def openFile (session : Session) (path : String) (scene : Scene World) :
    Result File × Scene World :=
  match session.cluster with
  | none => (.failed (.resourceUnavailable "FileSystem is not connected"), scene)
  | some id =>
    let cluster := scene.world.clusters id
    match scene.tell? session.observer ⟨sessionEvents.read, cluster.name, none, 0⟩ with
    | (.fail status, scene) => (.failed status, scene)
    | (.proceed, scene) =>
      match cluster.files.get? path with
      | none => (.failed (.pathNotFound ("Path not found: " ++ path)), scene)
      | some bytes =>
        let message := "Opened " ++ path ++ " (" ++ toString bytes.length ++ " bytes) on " ++ cluster.name
        (.ok { cluster := cluster.name, path, bytes }, scene.log .debug .fileSystem message)

def release (session : Session) (scene : Scene World) : Scene World :=
  { scene with world := scene.world.removeService session.engine }

end Session

/-- The memory engine. A service is known by the engine that runs it. -/
def engine : Engine where
  World := World
  Service := EngineId
  Session := Session
  File := File
  newService scene :=
    (.answered scene.world.installed,
      { scene with world := scene.world.addService scene.world.installed })
  newSession service user options scene :=
    (.answered (some { engine := service, user, options }), scene)
  observeSession session observer scene :=
    (.answered (), { session with observer := some observer }, scene)
  connect := Session.connect
  connectDefault := Session.connectDefault
  openFile session path scene :=
    let (result, scene) := session.openFile path scene
    (result, session, scene)
  dropSession session scene := (.answered (), session.release scene)
  abandonSession := Session.release
  observeFile file observer scene := (.answered (), { file with observer := some observer }, scene)
  read := File.read
  readAt := File.readAt
  seek file goal scene :=
    let (result, file) := file.seek goal
    (.answered result, file, scene)
  cancel file scene :=
    let (file, scene) := file.cancel scene
    (.answered (), file, scene)
  dropFile _ scene := (.answered (), scene)
  abandonFile _ scene := scene

end DfsClient.Memory
