import DfsClient.Ambient

/-! Engines. An engine has a world of its own and makes services, sessions and
files, which are values that its methods take and give back changed. A session
owns its service. Dropping may panic in the ordinary course of things, but never
while a panic is already under way. -/

namespace DfsClient

structure Engine where
  World : Type
  Service : Type
  Session : Type
  File : Type
  newService : Scene World → Reply Service × Scene World
  /-- Without a session, the service has been released. -/
  newSession : Service → String → Options → Scene World → Reply (Option Session) × Scene World
  observeSession : Session → Observer → Scene World → Reply Unit × Session × Scene World
  connect : Session → String → String → Scene World → Result Unit × Session × Scene World
  connectDefault : Session → Scene World → Result Unit × Session × Scene World
  openFile : Session → String → Scene World → Result File × Session × Scene World
  dropSession : Session → Scene World → Reply Unit × Scene World
  /-- Releases a session while a panic is under way. -/
  abandonSession : Session → Scene World → Scene World
  observeFile : File → Observer → Scene World → Reply Unit × File × Scene World
  read : File → Nat → Scene World → Result Transfer × File × Scene World
  readAt : File → Nat → Nat → Scene World → Result Transfer × File × Scene World
  seek : File → SeekTarget → Scene World → Result Nat × File × Scene World
  cancel : File → Scene World → Reply Unit × File × Scene World
  dropFile : File → Scene World → Reply Unit × Scene World
  /-- Releases a file while a panic is under way. -/
  abandonFile : File → Scene World → Scene World

namespace Engine

def createSession (engine : Engine) (user : String) (options : Options)
    (scene : Scene engine.World) : Reply (Option engine.Session) × Scene engine.World :=
  match engine.newService scene with
  | (.panicked payload, scene) => (.panicked payload, scene)
  | (.answered service, scene) => engine.newSession service user options scene

end Engine
end DfsClient
