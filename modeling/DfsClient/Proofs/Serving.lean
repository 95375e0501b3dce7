import DfsClient.Proofs.FaultInjection
import DfsClient.Proofs.OpenFiles

/-! Opens are served from the cluster to which their session is bound. Unless a handler asks for a
failure, a path opens when that cluster has a file there, and then it opens onto its bytes. -/

namespace DfsClient
open Boundary Memory

theorem Memory.Session.openFile_unobserved {session : Session} {id : ClusterId}
    (bound : session.cluster = some id) (path : String) (scene : Scene World) :
    (session.unobserved.openFile path scene).1 =
      match (scene.world.clusters id).files.get? path with
      | some bytes => .ok { cluster := (scene.world.clusters id).name, path, bytes }
      | none => .failed (.pathNotFound ("Path not found: " ++ path)) := by
  have same : session.unobserved.cluster = some id := bound
  have quiet : scene.tell? session.unobserved.observer
      ⟨sessionEvents.read, (scene.world.clusters id).name, none, 0⟩ = (.proceed, scene) := rfl
  unfold openFile
  rw [same]
  dsimp only
  rw [quiet]
  dsimp only
  cases (scene.world.clusters id).files.get? path with
  | none => rfl
  | some bytes => rfl

namespace Boundary.Caller

variable {caller : Caller engine.World} {session : engine.Session} {got : Result File × Scene engine.World}

theorem opening_failed {status : Status} (failed : got.1 = .failed status) :
    (caller.opening session got).1 = none := by
  obtain ⟨result, scene⟩ := got
  cases failed
  rfl

theorem opening_ok {file : File} (opened : got.1 = .ok file) (fresh : file.observer = none) :
    (caller.opening session got).1 = some { file with observer := caller.slots.fileObserver } := by
  obtain ⟨result, scene⟩ := got
  cases opened
  have adopted := adoptFile_new { caller with scene } file fresh
  unfold opening
  dsimp only [settle]
  rw [adopted]

end Boundary.Caller

namespace Client

variable {client : Client engine} {name text : String} {session : Session} {id : ClusterId} {path : Given}

theorem contentAt?_bound (there : client.sessions.get? name = some session) (bound : session.cluster = some id)
    (given : textOf? path = some text) :
    Proofs.contentAt? client name path =
      ((client.scene.world.clusters id).files.get? text).map (text, ·) := by
  unfold Proofs.contentAt?
  rw [there, given]
  dsimp only
  rw [bound]
  rfl

variable [Formats]

/-- Without observers, a path opens when the session's cluster has a file there. -/
theorem opens_unobserved (there : client.sessions.get? name = some session) (bound : session.cluster = some id)
    (given : textOf? path = some text) (thread : Nat) (into : Handle) :
    (client.unobserved.call thread (.openFile (some name) path into)).1 =
      .handle ((client.scene.world.clusters id).files.get? text).isSome := by
  have found : client.unobserved.sessions.find? (some name) = some session.unobserved := by
    rw [find_session_unobserved]
    exact congrArg (Option.map Session.unobserved) there
  let caller := (client.caller thread).unobserved
  have opens : caller.openFile (client.unobserved.sessions.find? (some name)) path = _ :=
    (congrArg (caller.openFile · path) found).trans
      (caller.openFile_given session.unobserved (requiredText_of_textOf? given "path"))
  have answer := session.openFile_unobserved bound text caller.scene
  change Answer.handle (caller.openFile (client.unobserved.sessions.find? (some name)) path).1.isSome = _
  rw [opens]
  refine congrArg Answer.handle ?_
  cases here : (client.scene.world.clusters id).files.get? text with
  | some bytes =>
    rw [show caller.scene.world = client.scene.world from rfl, here] at answer
    exact congrArg Option.isSome (Caller.opening_ok answer rfl)
  | none =>
    rw [show caller.scene.world = client.scene.world from rfl, here] at answer
    exact congrArg Option.isSome (Caller.opening_failed answer)

/-- A path opens with a session if there is content for it, unless a handler asks for a failure.
It opens onto nothing else. -/
def Serves (client : Client engine) (thread : Nat) (name : String) (path : Given) (into : Handle)
    (content? : Option (List UInt8)) : Prop :=
  let (answer, after) := client.call thread (.openFile (some name) path into)
  (∃ fresh, after.scene.ambient.replied = client.scene.ambient.replied ++ fresh ∧
      (failureReply ∉ fresh → answer = .handle content?.isSome)) ∧
    (answer = .handle true → ∀ file, into = some file →
      ∃ held : File, after.files.get? file = some held ∧ some held.bytes = content?)

/-- Opens are served by what the session's cluster has at the path. -/
theorem call_serves (client : Client engine) (sound : client.holdings.Sound)
    (counted : client.scene.ambient.Counted) (thread : Nat) (into : Handle)
    (there : client.sessions.get? name = some session) (bound : session.cluster = some id)
    (given : textOf? path = some text) :
    client.Serves thread name path into ((client.scene.world.clusters id).files.get? text) := by
  have plain := opens_unobserved there bound given thread into
  obtain ⟨fresh, hears, quiet, -⟩ :=
    (client.call_obeys sound thread (.openFile (some name) path into)).told_apart fun _ => rfl
  constructor
  · refine ⟨client.scene.ambient.repliesTo fresh, hears.replied counted, fun kind => ?_⟩
    have same := congrArg Prod.fst (quiet kind)
    exact same.symm.trans plain
  · intro opens file same
    subst same
    obtain ⟨text', content, stored, holds⟩ := Proofs.opened_holds opens
    have here := (contentAt?_bound there bound given).symm.trans stored
    obtain ⟨bytes, found, same⟩ := Option.map_eq_some_iff.mp here
    cases same
    obtain ⟨held, kept, shown, -⟩ := (holds (sound.world id text content found)).file
    refine ⟨held, kept, ?_⟩
    rw [shown.content]
    exact found.symm

/-- Handlers that never ask for a failure let every open be served. -/
theorem kind_call_serves (client : Client engine) (sound : client.holdings.Sound)
    (kind : client.scene.ambient.Kind)
    (thread : Nat) (into : Handle) (there : client.sessions.get? name = some session)
    (bound : session.cluster = some id) (given : textOf? path = some text) :
    (client.call thread (.openFile (some name) path into)).1 =
      .handle ((client.scene.world.clusters id).files.get? text).isSome := by
  obtain ⟨fresh, -, quiet, -⟩ :=
    (client.call_obeys sound thread (.openFile (some name) path into)).told_apart fun _ => rfl
  have same := congrArg Prod.fst (quiet (kind.repliesTo fresh))
  exact same.symm.trans (opens_unobserved there bound given thread into)

end Client
end DfsClient
