import DfsClient.Engine.Basic
import DfsClient.Table

/-! Direct use of an engine by the program that embeds it. The sessions and files
it holds have names of their own; nothing stands between it and the engine. -/

namespace DfsClient

structure Embedder (engine : Engine) where
  sessions : Table engine.Session := {}
  files : Table engine.File := {}

namespace Embedder

variable {engine : Engine} {α : Type}

/-- Makes a session under a name and releases the one that was there. If the
engine gives none, the name stays as it was. Answers whether it gave one. -/
def create (embedder : Embedder engine) (into user : String) (options : Options)
    (scene : Scene engine.World) : Bool × Embedder engine × Scene engine.World :=
  match engine.createSession user options scene with
  | (.answered (some session), scene) =>
    let scene := match embedder.sessions.get? into with
      | some old => (engine.dropSession old scene).2
      | none => scene
    (true, { embedder with sessions := embedder.sessions.set into session }, scene)
  | (_, scene) => (false, embedder, scene)

def dropSession (embedder : Embedder engine) (name : String) (scene : Scene engine.World) :
    Bool × Embedder engine × Scene engine.World :=
  match embedder.sessions.get? name with
  | none => (false, embedder, scene)
  | some session =>
    (true, { embedder with sessions := embedder.sessions.erase name },
      (engine.dropSession session scene).2)

def dropFile (embedder : Embedder engine) (name : String) (scene : Scene engine.World) :
    Bool × Embedder engine × Scene engine.World :=
  match embedder.files.get? name with
  | none => (false, embedder, scene)
  | some file =>
    (true, { embedder with files := embedder.files.erase name }, (engine.dropFile file scene).2)

def onSession (embedder : Embedder engine) (name : String)
    (operation : engine.Session → Scene engine.World → α × engine.Session × Scene engine.World)
    (scene : Scene engine.World) : Option α × Embedder engine × Scene engine.World :=
  match embedder.sessions.get? name with
  | none => (none, embedder, scene)
  | some session =>
    let (answer, session, scene) := operation session scene
    (some answer, { embedder with sessions := embedder.sessions.set name session }, scene)

def onFile (embedder : Embedder engine) (name : String)
    (operation : engine.File → Scene engine.World → α × engine.File × Scene engine.World)
    (scene : Scene engine.World) : Option α × Embedder engine × Scene engine.World :=
  match embedder.files.get? name with
  | none => (none, embedder, scene)
  | some file =>
    let (answer, file, scene) := operation file scene
    (some answer, { embedder with files := embedder.files.set name file }, scene)

def keepFile (embedder : Embedder engine) (into : String) (file : engine.File)
    (scene : Scene engine.World) : Embedder engine × Scene engine.World :=
  let scene := match embedder.files.get? into with
    | some old => (engine.dropFile old scene).2
    | none => scene
  ({ embedder with files := embedder.files.set into file }, scene)

def openFile (embedder : Embedder engine) (session path into : String)
    (scene : Scene engine.World) :
    Option (Result Unit) × Embedder engine × Scene engine.World :=
  match embedder.onSession session (engine.openFile · path) scene with
  | (some (.answered (.ok file)), embedder, scene) =>
    let (embedder, scene) := embedder.keepFile into file scene
    (some (.ok ()), embedder, scene)
  | (some (.answered (.error status)), embedder, scene) =>
    (some (.failed status), embedder, scene)
  | (some (.panicked payload), embedder, scene) => (some (.panicked payload), embedder, scene)
  | (none, embedder, scene) => (none, embedder, scene)

end Embedder
end DfsClient
