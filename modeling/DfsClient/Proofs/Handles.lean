import DfsClient.Proofs.MemoryEngine

/-! Sessions and files of the memory engine as threads get them and use them. A connect that
fails leaves the engine's world as it found it; one that succeeds keeps one service of the
installed engine. Whatever is done with files leaves the world alone. -/

namespace DfsClient.Boundary

theorem room_ok {length : Int32} {present : Bool} {count : Nat} (granted : room length present = .ok count) :
    0 ≤ length.toInt ∧ count = length.toInt.toNat := by
  unfold room at granted
  split at granted
  · cases granted
  next known =>
    split at granted
    · cases granted
    · cases granted
      exact ⟨by omega, rfl⟩

theorem roomAt_ok {position : Int64} {length : Int32} {present : Bool} {place : Nat × Nat}
    (granted : roomAt position length present = .ok place) :
    0 ≤ length.toInt ∧ place.2 = length.toInt.toNat := by
  unfold roomAt at granted
  split at granted
  · cases granted
  · split at granted
    · cases granted
    next room => cases granted; exact room_ok room

end DfsClient.Boundary

namespace DfsClient.Memory
open Boundary Boundary.Caller

theorem World.removeService_addService (world : World) (id : EngineId) :
    (world.addService id).removeService id = world := by
  have engines : ((world.addService id).removeService id).engines = world.engines := by
    funext other
    by_cases same : other = id
    · subst same
      simp [removeService, addService, setEngine, services]
    · simp [removeService, addService, setEngine, same]
  exact congrArg (fun engines => { world with engines }) engines

variable {caller : Caller World} {session : Session}

structure Made (caller : Caller World) (session : Session) : Prop where
  engine : session.engine = caller.scene.world.installed
  observer : session.observer = caller.slots.sessionObserver
  bound : ∃ id, caller.scene.world.Registered caller.scene.world.installed id ∧ session.cluster = some id

/-- A connect gives a session with a service, or leaves the world alone. -/
inductive Connects (caller : Caller World) : Option Session × Caller World → Prop
  | made {session : Session} {after : Caller World} (made : Made caller session)
    (world : after.scene.world = caller.scene.world.addService caller.scene.world.installed) :
    Connects caller (some session, after)
  | failed {after : Caller World} (world : after.scene.world = caller.scene.world) :
    Connects caller (none, after)

theorem Connects.refused (caller : Caller World) (failure : Failure) :
    Connects caller (none, caller.record failure) :=
  .failed (world_record caller failure)

theorem Connects.world {got : Option Session × Caller World} (connects : Connects caller got)
    (failed : got.1 = none) : got.2.scene.world = caller.scene.world := by
  cases connects with
  | made made world => cases failed
  | failed world => exact world

theorem Connects.congr {other : Caller World} {got : Option Session × Caller World}
    (connects : Connects other got) (slots : other.slots = caller.slots)
    (world : other.scene.world = caller.scene.world) : Connects caller got := by
  cases connects with
  | made made after =>
    rw [world] at after
    have bound := made.bound
    rw [world] at bound
    exact .made ⟨made.engine.trans (congrArg World.installed world),
      made.observer.trans (congrArg Slots.sessionObserver slots), bound⟩ after
  | failed after => exact .failed (after.trans world)

theorem World.endpoints_setServices (world : World) (id : EngineId) (services : Int) (other : EngineId) :
    ((world.setEngine id { world.engines id with services }).engines other).endpoints =
      (world.engines other).endpoints := by
  apply World.forall_setEngine (P := fun other engine => engine.endpoints = (world.engines other).endpoints)
  · rfl
  · exact fun _ => rfl

/-- How many services an engine runs makes no difference to what can be reached with it. -/
theorem World.Registered.of_services {world : World} {engine serving : EngineId} {services : Int}
    {id : ClusterId} (registered : (world.setEngine serving
      { world.engines serving with services }).Registered engine id) : world.Registered engine id := by
  obtain ⟨host, port, found⟩ := registered
  refine ⟨host, port, ?_⟩
  rw [← found, World.reach?, World.reach?, World.endpoints_setServices]

theorem reach_tried (session : engine.Session) (endpoint : Endpoint) (scene : Scene engine.World) :
    ∃ result held after, reach session endpoint scene = (result, held, after) ∧
      Session.Tried session scene result held after := by
  unfold reach
  cases endpoint with
  | defaultFs =>
    rw [engine_connectDefault]
    exact Session.connectDefault_tried session scene
  | explicit host port =>
    rw [engine_connect]
    exact Session.connect_tried session host (toString port.toNat) scene

theorem createSession_eq (user : String) (options : Options) (scene : Scene engine.World) :
    engine.createSession user options scene =
      (.answered (some { engine := scene.world.installed, user, options }),
        { scene with world := scene.world.addService scene.world.installed }) := rfl

theorem observeSession_new (session : Session) (fresh : session.observer = none)
    (observer : Option Observer) (scene : Scene engine.World) :
    @observeSession engine session observer scene = (.answered (), { session with observer }, scene) := by
  cases observer with
  | none =>
    cases session
    cases fresh
    rfl
  | some one => rfl

theorem world_releaseSession (caller : Caller engine.World) (session : Session) :
    (@releaseSession engine caller session).2.scene.world =
      caller.scene.world.removeService session.engine := rfl

theorem connect_connects (caller : Caller engine.World) (endpoint : Endpoint) (user : Option String)
    (options : Options) : Connects caller (caller.connect endpoint user options) := by
  unfold Caller.connect
  rw [createSession_eq]
  simp only [Caller.finish]
  unfold Caller.establish
  rw [observeSession_new _ rfl]
  let id := caller.scene.world.installed
  let noted : Scene engine.World :=
    Scene.trace ⟨caller.scene.ambient, caller.scene.world.addService id⟩ (connectingNote endpoint user)
  obtain ⟨result, held, after, got, tried⟩ := reach_tried
    { engine := id, user := user.getD "", options, observer := caller.slots.sessionObserver } endpoint noted
  have world : after.world = caller.scene.world.addService id := tried.quiet.world
  simp only
  rw [got]
  obtain ⟨cluster, registered, rfl, rfl⟩ | ⟨status, rfl, rfl, -⟩ := tried.outcome
  · exact .made ⟨rfl, rfl, cluster, registered.of_services, rfl⟩ world
  · refine .failed ?_
    rw [world_releaseSession]
    have reported := world_record { caller with scene := after } (.failed status)
    exact (congrArg (World.removeService · id) (reported.trans world)).trans
      (World.removeService_addService caller.scene.world id)

theorem connectDirect_connects (caller : Caller engine.World) (host : Given) (port : UInt16)
    (user : Given) : Connects caller (caller.connectDirect host port user) := by
  unfold connectDirect
  cases optionalText "nn" host with
  | error fault => exact .refused caller _
  | ok host =>
    cases optionalText "user" user with
    | error fault => exact .refused caller _
    | ok user => exact connect_connects caller _ user {}

theorem world_optionsOf [Formats] {World : Type} (scene : Scene World) (snapshot : Snapshot) :
    (scene.optionsOf snapshot).2.world = scene.world := by
  unfold Scene.optionsOf
  cases Options.defaultFsProblem? snapshot with
  | none => rfl
  | some problem => rfl

theorem connectBuilder_connects [Formats] (caller : Caller engine.World) (builder : Option Builder) :
    Connects caller (caller.connectBuilder builder) := by
  cases builder with
  | none => exact .refused caller _
  | some builder =>
    have same := world_optionsOf caller.scene builder.snapshot
    have connects := connect_connects { caller with scene := (caller.scene.optionsOf builder.snapshot).2 }
      builder.endpoint builder.user (caller.scene.optionsOf builder.snapshot).1
    exact connects.congr rfl same

structure Opened (caller : Caller World) (file : File) : Prop where
  position : file.position = 0
  observer : file.observer = caller.slots.fileObserver
  content : ∃ id path, (caller.scene.world.clusters id).files.get? path = some file.bytes

theorem adoptFile_new (caller : Caller engine.World) (file : File) (fresh : file.observer = none) :
    @adoptFile engine caller file = (some { file with observer := caller.slots.fileObserver }, caller) := by
  unfold adoptFile
  cases caller.slots.fileObserver with
  | none =>
    cases file
    cases fresh
    rfl
  | some one => rfl

theorem openFile_opens (caller : Caller engine.World) (session : Option engine.Session) (path : Given) :
    ∃ got after, caller.openFile session path = (got, session, after) ∧
      after.scene.world = caller.scene.world ∧ ∀ file, got = some file → Opened caller file := by
  cases session with
  | none => exact ⟨none, _, rfl, world_record caller _, fun _ => nofun⟩
  | some session =>
    cases given : requiredText "path" path with
    | error fault =>
      refine ⟨none, caller.record (.refused fault), ?_, world_record caller _, fun _ => nofun⟩
      simp only [Caller.openFile, given]
    | ok text =>
      have quiet := (Session.openFile_quiet session text caller.scene).1.world
      have opens := @Session.openFile_ok session text caller.scene
      cases got : Session.openFile session text caller.scene with
      | mk result scene =>
        rw [got] at quiet opens
        have view : engine.openFile session text caller.scene = (result, session, scene) :=
          congrArg (fun got => (got.1, session, got.2)) got
        simp only [Caller.openFile, given, view]
        match result with
        | .panicked payload => exact ⟨none, _, rfl, (world_record _ _).trans quiet, fun _ => nofun⟩
        | .answered (.error status) => exact ⟨none, _, rfl, (world_record _ _).trans quiet, fun _ => nofun⟩
        | .answered (.ok file) =>
          obtain ⟨id, content, -, there, rfl⟩ := opens rfl
          refine ⟨some _, _, congrArg (fun adopted => (adopted.1, some session, adopted.2))
            (adoptFile_new { caller with scene } _ rfl), quiet, fun file same => ?_⟩
          cases same
          exact ⟨rfl, rfl, id, text, there⟩

theorem checkedFile_ok {session : Option engine.Session} {file : Option engine.File}
    {held : engine.File} (checked : checkedFile session file = .ok held) : file = some held := by
  unfold checkedFile at checked
  split at checked
  · cases checked
  · cases checked
  · cases checked
    rfl

theorem world_settle {α : Type} (caller : Caller World) (result : Result α) :
    (caller.settle result).2.scene.world = caller.scene.world := by
  match result with
  | .answered (.ok answer) => rfl
  | .answered (.error status) => exact world_record caller _
  | .panicked payload => exact world_record caller _

theorem useFile_uses {α β : Type} (caller : Caller engine.World) (session : Option engine.Session)
    (file : Option engine.File) (arguments : Except Fault β)
    (operation : engine.File → β → Scene engine.World → Result α × engine.File × Scene engine.World)
    (works : ∀ held argument scene, File.Works held scene (operation held argument scene)) :
    ∃ got held after, caller.useFile session file arguments operation = (got, held, after) ∧
      after.scene.world = caller.scene.world ∧
      (held = file ∨ ∃ before moved, file = some before ∧ held = some moved ∧ File.Moves before moved) := by
  unfold useFile
  cases checked : checkedFile session file with
  | error fault => exact ⟨none, file, _, rfl, world_record caller _, .inl rfl⟩
  | ok held =>
    have there := checkedFile_ok checked
    cases arguments with
    | error fault => exact ⟨none, some held, _, rfl, world_record caller _, .inl there.symm⟩
    | ok argument =>
      have worked := works held argument caller.scene
      exact ⟨_, _, _, rfl, (world_settle _ _).trans worked.quiet.world,
        .inr ⟨held, _, there, rfl, worked.moves⟩⟩

theorem close_closes (caller : Caller engine.World) (session : Option engine.Session)
    (file : Option engine.File) :
    ∃ got held after, caller.close session file = (got, held, after) ∧
      after.scene.world = caller.scene.world ∧
      (got = none ∧ held = file ∨ got = some () ∧ held = none) := by
  unfold close
  cases checkedFile session file with
  | error fault => exact ⟨none, file, _, rfl, world_record caller _, .inl ⟨rfl, rfl⟩⟩
  | ok held => exact ⟨some (), none, caller, rfl, rfl, .inr ⟨rfl, rfl⟩⟩

end DfsClient.Memory
