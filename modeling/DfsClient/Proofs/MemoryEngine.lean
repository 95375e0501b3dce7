import DfsClient.Engine.Memory.Session
import DfsClient.Proofs.Outcome

/-! What the methods of the memory engine leave alone. Only making and releasing sessions
acts on the engine's world, and no method reports an error. With observers from across
the boundary, no method fails with a status that is ok. -/

namespace DfsClient

/-- An observer that is a handler across the boundary, or none. -/
def Crossing (observer : Option Observer) : Prop := ∀ one, observer = some one → ∃ monitor, one = .handler monitor

/-- A result that, if it fails in good order, has an error to report. -/
def Clean {α : Type} (result : Result α) : Prop := ∀ status, result = .failed status → status.isOk = false

theorem clean_ok {α : Type} (answer : α) : Clean (.ok answer) := nofun

theorem clean_failed {α : Type} {status : Status} (bad : status.isOk = false) :
    Clean (.failed status : Result α) := by
  intro other same
  cases same
  exact bad

theorem Ambient.tell?_bad {ambient : Ambient} {observer : Option Observer} (crossing : Crossing observer)
    {event : Event} {status : Status} (failed : (ambient.tell? observer event).1 = .fail status) :
    status.isOk = false := by
  match observer with
  | none => cases failed
  | some one =>
    obtain ⟨monitor, rfl⟩ := crossing one rfl
    simp only [tell?, tell, Response.ofReply] at failed
    split at failed
    · cases failed; rfl
    · cases failed

namespace Memory
open Boundary

namespace File

variable {World : Type}

/-- At most the cursor of a file moved, and not past the end, or the file was canceled. -/
structure Moves (before after : File) : Prop where
  cluster : after.cluster = before.cluster
  path : after.path = before.path
  bytes : after.bytes = before.bytes
  observer : after.observer = before.observer
  position : before.position ≤ before.length → after.position ≤ before.length

theorem Moves.refl (file : File) : Moves file file := ⟨rfl, rfl, rfl, rfl, id⟩

theorem Moves.trans {first second third : File} (one : first.Moves second) (other : second.Moves third) :
    first.Moves third := by
  have length : second.length = first.length := congrArg List.length one.bytes
  refine ⟨other.cluster.trans one.cluster, other.path.trans one.path, other.bytes.trans one.bytes,
    other.observer.trans one.observer, fun inside => ?_⟩
  rw [← length]
  apply other.position
  rw [length]
  exact one.position inside

/-- A file of a content that a machine can hold, whose cursor is not past the end. -/
structure Seated (file : File) : Prop where
  length : file.length < 9223372036854775808
  position : file.position ≤ file.length

theorem Seated.moves {before after : File} (seated : before.Seated) (moves : before.Moves after) : after.Seated := by
  have length : after.length = before.length := congrArg List.length moves.bytes
  refine ⟨?_, ?_⟩
  · rw [length]
    exact seated.length
  · rw [length]
    exact moves.position seated.position

structure Works {α : Type} (file : File) (scene : Scene World)
    (got : Result α × File × Scene World) : Prop where
  quiet : scene.Quiet got.2.2
  moves : file.Moves got.2.1
  clean : Crossing file.observer → Clean got.1

theorem copyAt_quiet (file : File) (length offset : Nat) (scene : Scene World) :
    scene.Quiet (file.copyAt length offset scene).2 ∧
      (Crossing file.observer → Clean (file.copyAt length offset scene).1) := by
  unfold copyAt
  dsimp only
  split
  · exact ⟨.refl scene, fun _ => clean_failed rfl⟩
  · generalize (Event.mk _ _ _ _) = event
    have told := Scene.Quiet.tell? scene file.observer event
    have bad (crossing : Crossing file.observer) (status : Status) :
        (scene.tell? file.observer event).1 = .fail status → status.isOk = false :=
      Ambient.tell?_bad crossing
    cases got : scene.tell? file.observer event with
    | mk response after =>
      rw [got] at told bad
      cases response with
      | fail status => exact ⟨told, fun crossing => clean_failed (bad crossing status rfl)⟩
      | proceed => exact ⟨told.trans (.log ..), fun _ => clean_ok _⟩

/-- A copy is never longer than asked for, nor does it go past the end. -/
theorem count_copyAt {file : File} {length offset : Nat} {scene : Scene World} {transfer : Transfer}
    (copied : (file.copyAt length offset scene).1 = .ok transfer) :
    transfer.count ≤ length ∧ (offset ≤ file.length → offset + transfer.count ≤ file.length) := by
  unfold copyAt at copied
  dsimp only at copied
  split at copied
  · cases copied
  · split at copied
    · cases copied
    · cases copied
      exact ⟨Nat.min_le_left .., fun inside => by dsimp only; omega⟩

theorem readAt_works (file : File) (length offset : Nat) (scene : Scene World) :
    file.Works scene (file.readAt length offset scene) :=
  have copied := file.copyAt_quiet length offset scene
  ⟨copied.1, .refl file, copied.2⟩

theorem read_works (file : File) (length : Nat) (scene : Scene World) :
    file.Works scene (file.read length scene) := by
  have copied := file.copyAt_quiet length file.position scene
  unfold read
  cases got : file.copyAt length file.position scene with
  | mk result after =>
    rw [got] at copied
    match result with
    | .answered (.error status) => exact ⟨copied.1, .refl file, copied.2⟩
    | .panicked payload => exact ⟨copied.1, .refl file, copied.2⟩
    | .answered (.ok transfer) =>
      exact ⟨copied.1, ⟨rfl, rfl, rfl, rfl, (count_copyAt (congrArg Prod.fst got)).2⟩, copied.2⟩

theorem seek_works (file : File) (goal : SeekTarget) (scene : Scene World) :
    file.Works scene (.answered (file.seek goal).1, (file.seek goal).2, scene) := by
  unfold seek
  split
  · exact ⟨.refl scene, .refl file, fun _ => clean_failed rfl⟩
  · dsimp only
    split
    next inside => exact ⟨.refl scene, ⟨rfl, rfl, rfl, rfl, fun _ => by dsimp only; omega⟩, fun _ => clean_ok _⟩
    next outside => exact ⟨.refl scene, .refl file, fun _ => clean_failed rfl⟩

/-- A seek that succeeds answers its place, and only the cursor is another afterwards. -/
theorem seek_ok {file moved : File} {goal : SeekTarget} {place : Nat} (done : file.seek goal = (.ok place, moved)) :
    file.canceled = false ∧ place = file.target goal ∧ place ≤ file.length ∧ moved = { file with position := place } := by
  unfold seek at done
  split at done
  · cases done
  next going =>
    dsimp only at done
    split at done
    next inside =>
      cases done
      exact ⟨Bool.eq_false_iff.mpr going, Int.toNat_of_nonneg inside.1, Int.toNat_le.mpr inside.2, rfl⟩
    next => cases done

theorem cancel_works (file : File) (scene : Scene World) :
    file.Works scene (.ok (), (file.cancel scene).1, (file.cancel scene).2) :=
  ⟨.log .., ⟨rfl, rfl, rfl, rfl, id⟩, fun _ => clean_ok _⟩

end File

/-- A cluster that can be reached somewhere with an engine. -/
def World.Registered (world : World) (engine : EngineId) (id : ClusterId) : Prop :=
  ∃ host port, world.reach? engine host port = some id

/-- What trying to connect a session may come to: it is bound to a cluster that its engine
knows, or left alone. -/
structure Session.Tried (session : Session) (scene : Scene World) (result : Result Unit)
    (held : Session) (after : Scene World) : Prop where
  quiet : scene.Quiet after
  outcome : (∃ id, scene.world.Registered session.engine id ∧ result = .ok () ∧
      held = { session with cluster := some id }) ∨
    ∃ status, result = .failed status ∧ held = session ∧
      (Crossing session.observer → status.isOk = false)

namespace Session

theorem Tried.failed {session : Session} {before scene : Scene World} {status : Status}
    (quiet : before.Quiet scene) (bad : Crossing session.observer → status.isOk = false) :
    Tried session before (.failed status) session scene :=
  ⟨quiet, .inr ⟨status, rfl, rfl, bad⟩⟩

theorem connectTo_tried (session : Session) (host : String) (port : UInt16) (scene : Scene World) :
    ∃ result held after, session.connectTo host port scene = (result, held, after) ∧
      Tried session scene result held after := by
  unfold connectTo
  dsimp only
  have begun := Scene.Quiet.log scene .info .fileSystem
    ("Connecting to " ++ endpoint host port ++ " as '" ++ session.user ++ "'")
  generalize scene.log .info .fileSystem _ = start at begun ⊢
  generalize (Event.mk _ _ _ _) = event
  have told := begun.trans (Scene.Quiet.tell? start session.observer event)
  have bad (crossing : Crossing session.observer) (status : Status) :
      (start.tell? session.observer event).1 = .fail status → status.isOk = false :=
    Ambient.tell?_bad crossing
  cases got : start.tell? session.observer event with
  | mk response after =>
    rw [got] at told bad
    cases response with
    | fail status => exact ⟨_, _, _, rfl, .failed told fun crossing => bad crossing status rfl⟩
    | proceed =>
      cases found : start.world.reach? session.engine host port with
      | none => exact ⟨_, _, _, rfl, .failed (told.trans (.log ..)) fun _ => rfl⟩
      | some id =>
        dsimp only
        split
        · exact ⟨_, _, _, rfl, .failed told fun _ => rfl⟩
        · rw [begun.world] at found
          exact ⟨_, _, _, rfl, told, .inl ⟨id, ⟨host, port, found⟩, rfl, rfl⟩⟩

theorem connect_tried (session : Session) (host service : String) (scene : Scene World) :
    ∃ result held after, session.connect host service scene = (result, held, after) ∧
      Tried session scene result held after := by
  unfold connect
  split
  · exact ⟨_, _, _, rfl, .failed (.refl scene) fun _ => rfl⟩
  · exact session.connectTo_tried host _ scene

theorem connectDefault_tried (session : Session) (scene : Scene World) :
    ∃ result held after, session.connectDefault scene = (result, held, after) ∧
      Tried session scene result held after := by
  unfold connectDefault
  split
  · exact ⟨_, _, _, rfl, .failed (.refl scene) fun _ => rfl⟩
  · split
    · exact ⟨_, _, _, rfl, .failed (.refl scene) fun _ => rfl⟩
    · exact session.connect_tried _ _ scene

theorem openFile_quiet (session : Session) (path : String) (scene : Scene World) :
    scene.Quiet (session.openFile path scene).2 ∧
      (Crossing session.observer → Clean (session.openFile path scene).1) := by
  unfold openFile
  split
  · exact ⟨.refl scene, fun _ => clean_failed rfl⟩
  · dsimp only
    generalize (Event.mk _ _ _ _) = event
    have told := Scene.Quiet.tell? scene session.observer event
    have bad (crossing : Crossing session.observer) (status : Status) :
        (scene.tell? session.observer event).1 = .fail status → status.isOk = false :=
      Ambient.tell?_bad crossing
    cases got : scene.tell? session.observer event with
    | mk response after =>
      rw [got] at told bad
      cases response with
      | fail status => exact ⟨told, fun crossing => clean_failed (bad crossing status rfl)⟩
      | proceed =>
        dsimp only
        split
        · exact ⟨told, fun _ => clean_failed rfl⟩
        · exact ⟨told.trans (.log ..), fun _ => clean_ok _⟩

theorem openFile_ok {session : Session} {text : String} {scene : Scene World}
    {file : File} (opens : (session.openFile text scene).1 = .ok file) :
    ∃ id content, session.cluster = some id ∧
      (scene.world.clusters id).files.get? text = some content ∧
      file = { cluster := (scene.world.clusters id).name, path := text, bytes := content } := by
  unfold Session.openFile at opens
  cases bound : session.cluster with
  | none => simp only [bound] at opens; cases opens
  | some id =>
    obtain ⟨told, answer, -⟩ := scene.tell?_spec session.observer
      ⟨sessionEvents.read, (scene.world.clusters id).name, none, 0⟩
    generalize scene.ambient.responseTo session.observer 0 _ = response at answer
    cases response with
    | fail status => simp only [bound, answer] at opens; cases opens
    | proceed =>
      cases here : (scene.world.clusters id).files.get? text with
      | none => simp only [bound, answer, here] at opens; cases opens
      | some content =>
        simp only [bound, answer, here] at opens
        cases opens
        exact ⟨id, content, rfl, here, rfl⟩

end Session

theorem engine_connect : engine.connect = Session.connect := by dsimp only [engine]

theorem engine_connectDefault : engine.connectDefault = Session.connectDefault := by dsimp only [engine]

theorem engine_silent : engine.Silent where
  newService _ := rfl
  newSession _ _ _ _ := rfl
  observeSession _ _ _ := rfl
  connect session host service scene := by
    obtain ⟨result, held, after, got, tried⟩ := Session.connect_tried session host service scene
    rw [engine_connect, got]
    exact tried.quiet.reports
  connectDefault session scene := by
    obtain ⟨result, held, after, got, tried⟩ := Session.connectDefault_tried session scene
    rw [engine_connectDefault, got]
    exact tried.quiet.reports
  openFile session path scene := (Session.openFile_quiet session path scene).1.reports
  dropSession _ _ := rfl
  abandonSession _ _ := rfl
  observeFile _ _ _ := rfl
  read file length scene := (File.read_works file length scene).quiet.reports
  readAt file length offset scene := (File.readAt_works file length offset scene).quiet.reports
  seek _ _ _ := rfl
  cancel _ _ := Ambient.reports_log ..
  dropFile _ _ := rfl
  abandonFile _ _ := rfl

theorem engine_calm (session : engine.Session) (scene : Scene engine.World) :
    (engine.dropSession session scene).1 = .answered () := rfl

end Memory
end DfsClient
