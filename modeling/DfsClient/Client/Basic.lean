import DfsClient.Boundary.BuilderUse
import DfsClient.Boundary.Connection
import DfsClient.Boundary.FileUse
import DfsClient.Table

/-! A client program as the boundary sees it: threads with their slots, and the
builders, sessions and files that it holds under names. Everything but the slots
is shared by the threads. -/

namespace DfsClient

open Boundary

/-- A handle names what it stands for; without a name it is null. -/
abbrev Handle := Option String

structure Client (engine : Engine) where
  scene : Scene engine.World
  tree : Config.FileTree
  environment : Config.Variables := {}
  threads : Nat → Slots := fun _ => {}
  builders : Table Builder := {}
  sessions : Table engine.Session := {}
  files : Table engine.File := {}

namespace Client

variable {engine : Engine}

def caller (client : Client engine) (thread : Nat) : Caller engine.World :=
  ⟨client.threads thread, client.scene⟩

def resume (client : Client engine) (thread : Nat) (caller : Caller engine.World) : Client engine :=
  { client with
    scene := caller.scene
    threads := fun other => if other = thread then caller.slots else client.threads other }

/-- Releases what a name held when the name comes to hold something else. This
happens between calls, where nobody is told of a panic. -/
def replaceSession (client : Client engine) (into : Handle) (session : Option engine.Session) :
    Client engine :=
  let surplus := match into with
    | some name => client.sessions.get? name
    | none => session
  let scene := match surplus with
    | some old => (engine.dropSession old client.scene).2
    | none => client.scene
  { client with scene, sessions := client.sessions.update into session }

def replaceFile (client : Client engine) (into : Handle) (file : Option engine.File) :
    Client engine :=
  let surplus := match into with
    | some name => client.files.get? name
    | none => file
  let scene := match surplus with
    | some old => (engine.dropFile old client.scene).2
    | none => client.scene
  { client with scene, files := client.files.update into file }

def keepBuilder (client : Client engine) (handle : Handle) (builder : Option Builder) :
    Client engine :=
  { client with builders := client.builders.update handle builder }

def defaultBuilder [Formats] (client : Client engine) (caller : Caller engine.World) :
    Option Builder × Caller engine.World :=
  let (loaded, scene) := Builder.load client.tree (.ofVariables client.environment) caller.scene
  { caller with scene }.finish loaded

def directoryBuilder [Formats] (client : Client engine) (caller : Caller engine.World) (directory : Given) :
    Option Builder × Caller engine.World :=
  match requiredText "configDirectory" directory with
  | .error fault => (none, caller.record (.refused fault))
  | .ok directory =>
    let path := Config.SearchPath.set {} directory
    let (loaded, scene) := Builder.load client.tree path caller.scene
    { caller with scene }.finish loaded

theorem caller_resume_same (client : Client engine) (thread : Nat) (caller : Caller engine.World) :
    (client.resume thread caller).caller thread = caller := by
  simp [resume, Client.caller]

theorem threads_resume_other (client : Client engine) {thread other : Nat}
    (caller : Caller engine.World) (differ : other ≠ thread) :
    (client.resume thread caller).threads other = client.threads other := by
  simp [resume, differ]

/-- A thread that did nothing changes nothing. -/
theorem resume_caller (client : Client engine) (thread : Nat) :
    client.resume thread (client.caller thread) = client := by
  have threads : (client.resume thread (client.caller thread)).threads = client.threads := by
    funext other
    by_cases itself : other = thread
    · subst itself
      exact if_pos rfl
    · exact threads_resume_other client _ itself
  exact congrArg (fun threads => { client with threads }) threads

end Client
end DfsClient
