import DfsClient.Proofs.DueEvents
import DfsClient.Proofs.Unobserved

/-! The methods of the memory engine, and the threads that call them, obey their observers: a
method goes as it would unobserved, or a failure reply makes it fail and it does nothing. -/

namespace DfsClient
open Boundary

namespace Memory

namespace File

variable {World : Type}

/-- An operation on a file that obeys the file's observer. Its fault leaves the file alone. -/
def Obedient {α : Type} (file : File) (scene : Scene World) (bare got : Result α × File × Scene World) :
    Prop :=
  Obeys file.observer scene.ambient (fun got => (got.1, got.2.1.unobserved, got.2.2.unobserved))
    (fun got => got.2.2.ambient) (fun ambient => (.failed simulated, file, { scene with ambient })) bare got

theorem copyAt_obeys (file : File) (crossing : Crossing file.observer) (length offset : Nat)
    (scene : Scene World) :
    Obeys file.observer scene.ambient (fun got => (got.1, got.2.unobserved)) (fun got => got.2.ambient)
      (fun ambient => (.failed simulated, { scene with ambient }))
      (file.unobserved.copyAt length offset scene.unobserved) (file.copyAt length offset scene) := by
  have consults := scene.tell?_consults crossing
    ⟨fileEvents.read, file.cluster, some file.path, Int64.ofNat (min length (file.length - min offset file.length))⟩
  unfold copyAt
  dsimp only
  rw [show file.unobserved.canceled = file.canceled from rfl]
  split
  · exact .silent (.refl _ _) rfl
  · generalize scene.tell? file.observer _ = told at consults
    cases consults with
    | fault tells unkind => exact .fault tells unkind rfl
    | quiet tells kind silent =>
      refine .quiet (tells.then_silence (.log ..)).toHears kind (congrArg (Prod.mk _) ?_)
      rw [Scene.unobserved_log, silent]
      rfl

theorem readAt_obeys (file : File) (crossing : Crossing file.observer) (length offset : Nat)
    (scene : Scene World) :
    file.Obedient scene (file.unobserved.readAt length offset scene.unobserved)
      (file.readAt length offset scene) := by
  refine (file.copyAt_obeys crossing length offset scene).lift (fun same => ⟨.refl _ _, ?_⟩)
    fun ambient same => ⟨ambient, .refl _ _, ?_⟩
  · unfold readAt
    rw [same]
  · unfold readAt
    rw [same]

theorem read_obeys (file : File) (crossing : Crossing file.observer) (length : Nat) (scene : Scene World) :
    file.Obedient scene (file.unobserved.read length scene.unobserved) (file.read length scene) := by
  have copied := file.copyAt_obeys crossing length file.position scene
  unfold read
  rw [show file.unobserved.position = file.position from rfl]
  generalize file.copyAt length file.position scene = got at copied ⊢
  refine copied.lift (fun same => ?_) fun ambient same => ?_
  · rw [same]
    obtain ⟨result, after⟩ := got
    match result with
    | .answered (.ok transfer) => exact ⟨.refl _ _, rfl⟩
    | .answered (.error status) => exact ⟨.refl _ _, rfl⟩
    | .panicked payload => exact ⟨.refl _ _, rfl⟩
  · subst same
    exact ⟨ambient, .refl _ _, rfl⟩

theorem seek_unobserved (file : File) (goal : SeekTarget) :
    file.unobserved.seek goal = ((file.seek goal).1, (file.seek goal).2.unobserved) := by
  have target : file.unobserved.target goal = file.target goal := by cases goal <;> rfl
  unfold seek
  rw [target, show file.unobserved.canceled = file.canceled from rfl,
    show file.unobserved.length = file.length from rfl]
  split
  · rfl
  · dsimp only
    split
    · rfl
    · rfl

theorem seek_obeys (file : File) (goal : SeekTarget) (scene : Scene World) :
    file.Obedient scene
      (.answered (file.unobserved.seek goal).1, (file.unobserved.seek goal).2, scene.unobserved)
      (.answered (file.seek goal).1, (file.seek goal).2, scene) := by
  refine .silent (.refl _ _) ?_
  rw [seek_unobserved]

theorem cancel_obeys (file : File) (scene : Scene World) :
    file.Obedient scene (.ok (), file.unobserved.cancel scene.unobserved)
      (.ok (), file.cancel scene) :=
  .silent (Ambient.Tells.log ..).toHears
    (congrArg (fun scene => (_, _, scene)) (Scene.unobserved_log scene .debug .fileHandle _).symm)

end File

namespace Session

/-- A connect that obeys its session's observer. Its fault leaves the session alone. -/
def Obedient (session : Session) (scene : Scene World)
    (bare got : Result Unit × Session × Scene World) : Prop :=
  Obeys session.observer scene.ambient (fun got => (got.1, got.2.1.unobserved, got.2.2.unobserved))
    (fun got => got.2.2.ambient) (fun ambient => (.failed simulated, session, { scene with ambient })) bare got

/-- The rest of a connect, after the observer let it go on. -/
def arrive (session : Session) (place : String) (reached : Option ClusterId) (scene : Scene World) :
    Result Unit × Session × Scene World :=
  match reached with
  | none =>
    (.failed (.resourceUnavailable ("Unable to connect to " ++ place)), session,
      scene.log .warning .rpc ("No namenode listening at " ++ place))
  | some id =>
    if (scene.world.clusters id).denies session.user then
      (.failed (.permissionDenied ("Permission denied: user=" ++ session.user)), session, scene)
    else (.ok (), { session with cluster := some id }, scene)

/-- A connect after its first log record. -/
theorem connectTo_eq (session : Session) (host : String) (port : UInt16) (scene : Scene World) :
    session.connectTo host port scene =
      let start := scene.log .info .fileSystem
        ("Connecting to " ++ endpoint host port ++ " as '" ++ session.user ++ "'")
      match start.tell? session.observer (scene.world.connecting session.engine host port) with
      | (.fail status, after) => (.failed status, session, after)
      | (.proceed, after) =>
        session.arrive (endpoint host port) (scene.world.reach? session.engine host port) after := rfl

theorem arrive_unobserved (session : Session) (place : String) (reached : Option ClusterId)
    (scene : Scene World) :
    session.unobserved.arrive place reached scene.unobserved =
      ((session.arrive place reached scene).1, (session.arrive place reached scene).2.1.unobserved,
        (session.arrive place reached scene).2.2.unobserved) := by
  cases reached with
  | none => exact congrArg (fun scene => (_, _, scene)) (Scene.unobserved_log scene .warning .rpc _).symm
  | some id =>
    unfold arrive
    dsimp only
    rw [show scene.unobserved.world = scene.world from rfl,
      show session.unobserved.user = session.user from rfl]
    split
    · rfl
    · rfl

theorem tells_arrive (session : Session) (place : String) (reached : Option ClusterId)
    (scene : Scene World) :
    scene.ambient.Tells session.observer [] (session.arrive place reached scene).2.2.ambient := by
  cases reached with
  | none => exact .log ..
  | some id =>
    unfold arrive
    dsimp only
    split
    · exact .refl _ _
    · exact .refl _ _

theorem connectTo_obeys (session : Session) (crossing : Crossing session.observer) (host : String)
    (port : UInt16) (scene : Scene World) :
    session.Obedient scene (session.unobserved.connectTo host port scene.unobserved)
      (session.connectTo host port scene) := by
  let message := "Connecting to " ++ endpoint host port ++ " as '" ++ session.user ++ "'"
  let start := scene.log .info .fileSystem message
  let reached := scene.world.reach? session.engine host port
  have logged : scene.ambient.Tells session.observer [] start.ambient := .log ..
  have consults := start.tell?_consults crossing (scene.world.connecting session.engine host port)
  have bare : session.unobserved.connectTo host port scene.unobserved =
      session.unobserved.arrive (endpoint host port) reached start.unobserved := by
    rw [Scene.unobserved_log]
    rfl
  rw [bare, connectTo_eq]
  refine .after_silence logged ?_
  dsimp only
  generalize start.tell? session.observer _ = told at consults
  cases consults with
  | fault tells unkind => exact .fault tells unkind rfl
  | quiet tells kind silent =>
    rw [← silent, arrive_unobserved]
    exact .quiet (tells.then_silence (session.tells_arrive ..)).toHears kind rfl

theorem connect_obeys (session : Session) (crossing : Crossing session.observer) (host service : String)
    (scene : Scene World) :
    session.Obedient scene (session.unobserved.connect host service scene.unobserved)
      (session.connect host service scene) := by
  unfold connect
  cases port? service with
  | none => exact .silent (.refl _ _) rfl
  | some port => exact session.connectTo_obeys crossing host port scene

theorem connectDefault_obeys (session : Session) (crossing : Crossing session.observer)
    (scene : Scene World) :
    session.Obedient scene (session.unobserved.connectDefault scene.unobserved)
      (session.connectDefault scene) := by
  unfold connectDefault
  rw [show session.unobserved.options = session.options from rfl]
  cases session.options.defaultFs with
  | none => exact .silent (.refl _ _) rfl
  | some url =>
    dsimp only
    cases url.host? with
    | none => exact .silent (.refl _ _) rfl
    | some host => exact session.connect_obeys crossing host _ scene

theorem reach_obeys (session : Session) (crossing : Crossing session.observer) (endpoint : Endpoint)
    (scene : Scene World) :
    session.Obedient scene (@reach Memory.engine session.unobserved endpoint scene.unobserved)
      (@reach Memory.engine session endpoint scene) := by
  unfold reach
  cases endpoint with
  | defaultFs =>
    rw [engine_connectDefault]
    exact session.connectDefault_obeys crossing scene
  | explicit host port =>
    rw [engine_connect]
    exact session.connect_obeys crossing host _ scene

theorem openFile_obeys (session : Session) (crossing : Crossing session.observer) (path : String)
    (scene : Scene World) :
    Obeys session.observer scene.ambient (fun got => (got.1, got.2.unobserved)) (fun got => got.2.ambient)
      (fun ambient => (.failed simulated, { scene with ambient }))
      (session.unobserved.openFile path scene.unobserved) (session.openFile path scene) := by
  unfold openFile
  rw [show session.unobserved.cluster = session.cluster from rfl]
  cases session.cluster with
  | none => exact .silent (.refl _ _) rfl
  | some id =>
    let cluster := scene.world.clusters id
    have consults := scene.tell?_consults crossing ⟨sessionEvents.read, cluster.name, none, 0⟩
    dsimp only
    rw [show scene.unobserved.world = scene.world from rfl]
    generalize scene.tell? session.observer _ = told at consults
    cases consults with
    | fault tells unkind => exact .fault tells unkind rfl
    | quiet tells kind silent =>
      have plain : scene.unobserved.tell? session.unobserved.observer
        ⟨sessionEvents.read, cluster.name, none, 0⟩ = (.proceed, scene.unobserved) := rfl
      rw [plain, ← silent]
      dsimp only
      cases (scene.world.clusters id).files.get? path with
      | none => exact .quiet tells.toHears kind rfl
      | some bytes =>
        refine .quiet (tells.then_silence (.log ..)).toHears kind ?_
        exact congrArg (Prod.mk _) (Scene.unobserved_log ..).symm

end Session
end Memory

namespace Boundary.Caller
open Memory

/-- Where a simulated failure leaves a thread. -/
def faulted (caller : Caller engine.World) (ambient : Ambient) : Caller engine.World :=
  ⟨caller.slots.withError simulatedError, { caller.scene with ambient }⟩

/-- A connect that obeys the observer in the slots of its thread. Its fault gives no session. -/
def Obedient (caller : Caller engine.World) (bare got : Option engine.Session × Caller engine.World) :
    Prop :=
  Obeys caller.slots.sessionObserver caller.scene.ambient
    (fun got => (got.1.map Session.unobserved, got.2.unobserved)) (fun got => got.2.scene.ambient)
    (fun ambient => (none, caller.faulted ambient)) bare got

theorem refused_obeys (caller : Caller engine.World) (failure : Failure) :
    caller.Obedient (none, caller.unobserved.record failure) (none, caller.record failure) := by
  refine .silent (tells_record _ caller failure).toHears ?_
  rw [record_unobserved]
  rfl

theorem tells_simulated (observer : Option Observer) (ambient : Ambient) :
    ambient.Tells observer [] (ambient.trace (reportNote simulatedError)) :=
  .trace ..

section
variable {α β : Type} (caller : Caller engine.World) (session : engine.Session) (held : engine.File)
  (argument : β)
  (operation : engine.File → β → Scene engine.World → Result α × engine.File × Scene engine.World)

/-- What a thread makes of the result of a method. -/
def settled (got : Result α × engine.File × Scene engine.World) :
    Option α × Option engine.File × Caller engine.World :=
  let (answer, after) := { caller with scene := got.2.2 }.settle got.1
  (answer, some got.2.1, after)

theorem useFile_ok : caller.useFile (some session) (some held) (.ok argument) operation =
    caller.settled (operation held argument caller.scene) := rfl

theorem settled_unobserved (observer : Option Observer)
    (got : Result α × engine.File × Scene engine.World) :
    got.2.2.ambient.Tells observer [] (caller.settled got).2.2.scene.ambient ∧
      caller.unobserved.settled (got.1, File.unobserved got.2.1, got.2.2.unobserved) =
        ((caller.settled got).1, (caller.settled got).2.1.map File.unobserved,
          (caller.settled got).2.2.unobserved) := by
  refine ⟨tells_settle observer { caller with scene := got.2.2 } got.1, ?_⟩
  have same := settle_unobserved { caller with scene := got.2.2 } got.1
  exact congrArg (fun settled => (settled.1, some (File.unobserved got.2.1), settled.2)) same

end

/-- A thread that uses a file obeys the file's observer, as the method does. -/
theorem useFile_obeys {α β : Type} (caller : Caller engine.World) (session : Option engine.Session)
    (file : Option engine.File) (crossing : ∀ held, file = some held → Crossing (File.observer held))
    (arguments : Except Fault β)
    (operation : engine.File → β → Scene engine.World → Result α × engine.File × Scene engine.World)
    (obeys : ∀ held argument scene, Crossing (File.observer held) → File.Obedient held scene
      (operation (File.unobserved held) argument scene.unobserved) (operation held argument scene)) :
    Obeys (file.bind File.observer) caller.scene.ambient
      (fun got => (got.1, got.2.1.map File.unobserved, got.2.2.unobserved))
      (fun got => got.2.2.scene.ambient) (fun ambient => (none, file, caller.faulted ambient))
      (caller.unobserved.useFile (session.map Session.unobserved) (file.map File.unobserved) arguments
        operation)
      (caller.useFile session file arguments operation) := by
  have refused (failure : Failure) : Obeys (file.bind File.observer) caller.scene.ambient
      (fun got => (got.1, got.2.1.map File.unobserved, got.2.2.unobserved))
      (fun got => got.2.2.scene.ambient) (fun ambient => (none, file, caller.faulted ambient))
      (none, file.map File.unobserved, caller.unobserved.record failure)
      ((none : Option α), file, caller.record failure) := by
    refine .silent (tells_record _ caller failure).toHears ?_
    rw [record_unobserved]
  cases session with
  | none => exact refused _
  | some session =>
    cases file with
    | none => exact refused _
    | some held =>
      cases arguments with
      | error fault => exact refused _
      | ok argument =>
        refine (obeys held argument caller.scene (crossing held rfl)).lift (fun same => ?_)
          fun ambient same => ?_
        · obtain ⟨tells, settled⟩ :=
            caller.settled_unobserved (File.observer held) (operation held argument caller.scene)
          exact ⟨tells.toHears, (congrArg caller.unobserved.settled same).trans settled⟩
        · have settled := congrArg caller.settled same
          have recorded := record_simulated { caller with scene := { caller.scene with ambient } }
          exact ⟨_, tells_simulated _ ambient, settled.trans (congrArg (fun caller => (none, some held, caller)) recorded)⟩

/-- What a thread makes of the result of an open. -/
def opening (caller : Caller engine.World) (session : engine.Session)
    (got : Result File × Scene engine.World) :
    Option engine.File × Option engine.Session × Caller engine.World :=
  match { caller with scene := got.2 }.settle got.1 with
  | (none, after) => (none, some session, after)
  | (some file, after) =>
    let (file, after) := @adoptFile engine after file
    (file, some session, after)

theorem openFile_given (caller : Caller engine.World) (session : engine.Session) {path : Given}
    {text : String} (given : requiredText "path" path = .ok text) :
    caller.openFile (some session) path =
      caller.opening session (Session.openFile session text caller.scene) := by
  have view : engine.openFile session text caller.scene =
      ((Session.openFile session text caller.scene).1, session,
        (Session.openFile session text caller.scene).2) := rfl
  unfold Caller.openFile opening
  simp only [given, view]
  match { caller with scene := (Session.openFile session text caller.scene).2 }.settle
    (Session.openFile session text caller.scene).1 with
  | (none, after) => rfl
  | (some file, after) => rfl

theorem opening_unobserved (caller : Caller engine.World) (session : engine.Session)
    (observer : Option Observer) (got : Result File × Scene engine.World)
    (fresh : ∀ file, got.1 = .ok file → file.observer = none) :
    got.2.ambient.Tells observer [] (caller.opening session got).2.2.scene.ambient ∧
      caller.unobserved.opening (Session.unobserved session) (got.1, got.2.unobserved) =
        ((caller.opening session got).1.map File.unobserved,
          (caller.opening session got).2.1.map Session.unobserved,
          (caller.opening session got).2.2.unobserved) := by
  obtain ⟨result, scene⟩ := got
  match result with
  | .answered (.ok file) =>
    have adopted := adoptFile_new { caller with scene } file (fresh file rfl)
    have bare := adoptFile_new { caller.unobserved with scene := scene.unobserved } file (fresh file rfl)
    unfold opening
    dsimp only [settle]
    rw [adopted, bare]
    exact ⟨.refl _ _, rfl⟩
  | .answered (.error status) =>
    refine ⟨tells_record observer { caller with scene } _, ?_⟩
    have recorded := record_unobserved { caller with scene } (.failed status)
    exact congrArg (fun after => (none, some (Session.unobserved session), after)) recorded
  | .panicked payload =>
    refine ⟨tells_record observer { caller with scene } _, ?_⟩
    have recorded := record_unobserved { caller with scene } (.panicked payload)
    exact congrArg (fun after => (none, some (Session.unobserved session), after)) recorded

theorem openFile_obeys (caller : Caller engine.World) (session : Option engine.Session)
    (crossing : ∀ held, session = some held → Crossing (Session.observer held)) (path : Given) :
    Obeys (session.bind Session.observer) caller.scene.ambient
      (fun got => (got.1.map File.unobserved, got.2.1.map Session.unobserved, got.2.2.unobserved))
      (fun got => got.2.2.scene.ambient) (fun ambient => (none, session, caller.faulted ambient))
      (caller.unobserved.openFile (session.map Session.unobserved) path) (caller.openFile session path) := by
  have refused (failure : Failure) : Obeys (session.bind Session.observer) caller.scene.ambient
      (fun got => (got.1.map File.unobserved, got.2.1.map Session.unobserved, got.2.2.unobserved))
      (fun got => got.2.2.scene.ambient) (fun ambient => (none, session, caller.faulted ambient))
      (none, session.map Session.unobserved, caller.unobserved.record failure)
      ((none : Option engine.File), session, caller.record failure) := by
    refine .silent (tells_record _ caller failure).toHears ?_
    rw [record_unobserved]
    rfl
  cases session with
  | none => exact refused _
  | some session =>
    cases given : requiredText "path" path with
    | error fault =>
      simp only [Caller.openFile, given]
      exact refused _
    | ok text =>
      have bare : caller.unobserved.openFile ((some session).map Session.unobserved) path = _ :=
        caller.unobserved.openFile_given (Session.unobserved session) given
      rw [caller.openFile_given session given, bare]
      have fresh (file : File) (opened : (Session.openFile session text caller.scene).1 = .ok file) :
          file.observer = none := by
        obtain ⟨id, content, -, -, rfl⟩ := Session.openFile_ok opened
        rfl
      refine (Session.openFile_obeys session (crossing session rfl) text caller.scene).lift
        (fun same => ?_) fun ambient same => ?_
      · obtain ⟨tells, opens⟩ := caller.opening_unobserved session (Session.observer session)
          (Session.openFile session text caller.scene) fresh
        exact ⟨tells.toHears, (congrArg (caller.unobserved.opening (Session.unobserved session)) same).trans opens⟩
      · rw [same]
        have recorded := record_simulated { caller with scene := { caller.scene with ambient } }
        exact ⟨_, tells_simulated _ ambient, congrArg (fun after => (none, some session, after)) recorded⟩

/-- What a thread makes of the result of a connect. -/
def concluding {engine : Engine} (caller : Caller engine.World)
    (got : Result Unit × engine.Session × Scene engine.World) :
    Option engine.Session × Caller engine.World :=
  match got with
  | (.answered (.ok ()), session, scene) => (some session, { caller with scene })
  | (.answered (.error status), session, scene) =>
    (none, (({ caller with scene }.record (.failed status)).releaseSession session).2)
  | (.panicked payload, session, scene) => (none, { caller with scene }.abandonSession session payload)

theorem establish_eq {engine : Engine} (caller : Caller engine.World) (session : engine.Session)
    (endpoint : Endpoint) (user : Option String) {observed : engine.Session} {scene : Scene engine.World}
    (attached : observeSession session caller.slots.sessionObserver caller.scene =
      (.answered (), observed, scene)) :
    caller.establish session endpoint user =
      caller.concluding (reach observed endpoint (scene.trace (connectingNote endpoint user))) := by
  unfold establish
  rw [attached]
  dsimp only
  generalize reach observed endpoint _ = got
  match got with
  | (.answered (.ok ()), session, scene) => rfl
  | (.answered (.error status), session, scene) => rfl
  | (.panicked payload, session, scene) => rfl

theorem concluding_unobserved (caller : Caller engine.World) (observer : Option Observer)
    (got : Result Unit × Session × Scene engine.World) :
    got.2.2.ambient.Tells observer [] (caller.concluding got).2.scene.ambient ∧
      caller.unobserved.concluding (got.1, got.2.1.unobserved, got.2.2.unobserved) =
        ((caller.concluding got).1.map Session.unobserved, (caller.concluding got).2.unobserved) := by
  obtain ⟨result, session, scene⟩ := got
  match result with
  | .answered (.ok ()) => exact ⟨.refl _ _, rfl⟩
  | .answered (.error status) =>
    refine ⟨tells_record observer { caller with scene } _, ?_⟩
    have recorded := record_unobserved { caller with scene } (.failed status)
    exact congrArg (fun after => (none, (@releaseSession engine after session).2)) recorded
  | .panicked payload =>
    refine ⟨tells_record observer { caller with scene := session.release scene } _, ?_⟩
    exact congrArg (Prod.mk none)
      (record_unobserved { caller with scene := session.release scene } (.panicked payload))

theorem connect_eq (caller : Caller engine.World) (endpoint : Endpoint) (user : Option String)
    (options : Options) :
    caller.connect endpoint user options = caller.concluding
      (@reach engine
        { engine := caller.scene.world.installed, user := user.getD "", options
          observer := caller.slots.sessionObserver } endpoint
        (Scene.trace ⟨caller.scene.ambient, caller.scene.world.addService caller.scene.world.installed⟩
          (connectingNote endpoint user))) := by
  unfold Caller.connect
  rw [createSession_eq]
  simp only [Caller.finish]
  exact establish_eq _ _ endpoint user (observeSession_new _ rfl _ _)

theorem connect_obeys (caller : Caller engine.World) (crossing : Crossing caller.slots.sessionObserver)
    (endpoint : Endpoint) (user : Option String) (options : Options) :
    caller.Obedient (caller.unobserved.connect endpoint user options)
      (caller.connect endpoint user options) := by
  let session : Session :=
    { engine := caller.scene.world.installed, user := user.getD "", options
      observer := caller.slots.sessionObserver }
  let served : Scene engine.World :=
    ⟨caller.scene.ambient, caller.scene.world.addService caller.scene.world.installed⟩
  let note := connectingNote endpoint user
  have noted : caller.scene.ambient.Tells caller.slots.sessionObserver [] (served.trace note).ambient :=
    .trace ..
  have bare : caller.unobserved.connect endpoint user options = caller.unobserved.concluding
      (@reach engine session.unobserved endpoint (served.trace note).unobserved) := by
    rw [connect_eq, Scene.unobserved_trace]
    rfl
  rw [bare, connect_eq]
  refine .after_silence noted ?_
  refine (session.reach_obeys crossing endpoint (served.trace note)).lift (fun same => ?_)
    fun ambient same => ?_
  · obtain ⟨tells, concludes⟩ := caller.concluding_unobserved caller.slots.sessionObserver
      (@reach engine session endpoint (served.trace note))
    exact ⟨tells.toHears, (congrArg caller.unobserved.concluding same).trans concludes⟩
  · refine ⟨_, tells_simulated _ ambient, ?_⟩
    have recorded := record_simulated { caller with scene := { served.trace note with ambient } }
    have released := congrArg (fun after =>
      ((none : Option engine.Session), (@releaseSession engine after session).2)) recorded
    have restored := World.removeService_addService caller.scene.world caller.scene.world.installed
    refine ((congrArg caller.concluding same).trans released).trans ?_
    exact congrArg (fun world => (none, (⟨_, ⟨_, world⟩⟩ : Caller engine.World))) restored

theorem connectDirect_obeys (caller : Caller engine.World) (crossing : Crossing caller.slots.sessionObserver)
    (host : Given) (port : UInt16) (user : Given) :
    caller.Obedient (caller.unobserved.connectDirect host port user)
      (caller.connectDirect host port user) := by
  unfold connectDirect
  cases optionalText "nn" host with
  | error fault => exact refused_obeys caller _
  | ok host =>
    cases optionalText "user" user with
    | error fault => exact refused_obeys caller _
    | ok user => exact connect_obeys caller crossing _ user {}

theorem connectBuilder_obeys [Formats] (caller : Caller engine.World)
    (crossing : Crossing caller.slots.sessionObserver) (builder : Option Builder) :
    caller.Obedient (caller.unobserved.connectBuilder builder) (caller.connectBuilder builder) := by
  cases builder with
  | none => exact refused_obeys caller _
  | some builder =>
    let resolved := caller.scene.optionsOf builder.snapshot
    have options : caller.unobserved.scene.optionsOf builder.snapshot = (resolved.1, resolved.2.unobserved) :=
      Scene.optionsOf_unobserved caller.scene builder.snapshot
    have world : resolved.2.world = caller.scene.world := world_optionsOf caller.scene builder.snapshot
    have obeys := connect_obeys { caller with scene := resolved.2 } crossing builder.endpoint builder.user
      resolved.1
    unfold connectBuilder
    dsimp only
    rw [options]
    refine Obeys.after_silence (Scene.tells_optionsOf _ caller.scene builder.snapshot) ?_
    refine obeys.lift (fun same => ⟨.refl _ _, same⟩) fun ambient same => ⟨ambient, .refl _ _, ?_⟩
    refine same.trans ?_
    exact congrArg (fun world => (none, (⟨_, ⟨ambient, world⟩⟩ : Caller engine.World))) world

theorem disconnect_unobserved (caller : Caller engine.World) (observer : Option Observer)
    (session : Option engine.Session) :
    caller.scene.ambient.Tells observer [] (caller.disconnect session).2.scene.ambient ∧
      caller.unobserved.disconnect (session.map Session.unobserved) =
        ((caller.disconnect session).1, (caller.disconnect session).2.unobserved) := by
  cases session with
  | none => exact ⟨tells_record observer caller _, congrArg (Prod.mk none) (record_unobserved caller _)⟩
  | some session => exact ⟨.refl _ _, rfl⟩

theorem close_unobserved (caller : Caller engine.World) (observer : Option Observer)
    (session : Option engine.Session) (file : Option engine.File) :
    caller.scene.ambient.Tells observer [] (caller.close session file).2.2.scene.ambient ∧
      caller.unobserved.close (session.map Session.unobserved) (file.map File.unobserved) =
        ((caller.close session file).1, (caller.close session file).2.1.map File.unobserved,
          (caller.close session file).2.2.unobserved) := by
  have refused (failure : Failure) :
      caller.scene.ambient.Tells observer [] (caller.record failure).scene.ambient ∧
        ((none : Option Unit), file.map File.unobserved, caller.unobserved.record failure) =
          (none, file.map File.unobserved, (caller.record failure).unobserved) :=
    ⟨tells_record observer caller failure, congrArg (fun after => (_, _, after)) (record_unobserved caller failure)⟩
  cases session with
  | none => exact refused _
  | some session =>
    cases file with
    | none => exact refused _
    | some held => exact ⟨.refl _ _, rfl⟩

end Boundary.Caller
end DfsClient
