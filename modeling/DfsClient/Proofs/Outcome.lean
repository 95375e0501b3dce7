import DfsClient.Boundary.Connection
import DfsClient.Boundary.FileUse
import DfsClient.Proofs.Reports

/-! What a call comes to: an answer, or the first failure on the way to one. A thread
settles an outcome by answering it or by reporting the failure once. -/

namespace DfsClient
namespace Boundary

variable {α β : Type}

def allowed : Except Fault α → Except Failure α
  | .ok value => .ok value
  | .error fault => .error (.refused fault)

def finished : Reply α → Except Failure α
  | .answered answer => .ok answer
  | .panicked payload => .error (.panicked payload)

def resulting : Result α → Except Failure α
  | .answered (.ok answer) => .ok answer
  | .answered (.error status) => .error (.failed status)
  | .panicked payload => .error (.panicked payload)

/-- The errors that an outcome leaves behind. -/
def errorsOf : Except Failure α → List LastError
  | .ok _ => []
  | .error failure => failure.error?.toList

end Boundary

structure Engine.Silent (engine : Engine) : Prop where
  newService : ∀ scene, (engine.newService scene).2.ambient.reports = scene.ambient.reports
  newSession : ∀ service user options scene,
    (engine.newSession service user options scene).2.ambient.reports = scene.ambient.reports
  observeSession : ∀ session observer scene,
    (engine.observeSession session observer scene).2.2.ambient.reports = scene.ambient.reports
  connect : ∀ session host service scene,
    (engine.connect session host service scene).2.2.ambient.reports = scene.ambient.reports
  connectDefault : ∀ session scene,
    (engine.connectDefault session scene).2.2.ambient.reports = scene.ambient.reports
  openFile : ∀ session path scene,
    (engine.openFile session path scene).2.2.ambient.reports = scene.ambient.reports
  dropSession : ∀ session scene, (engine.dropSession session scene).2.ambient.reports = scene.ambient.reports
  abandonSession : ∀ session scene, (engine.abandonSession session scene).ambient.reports = scene.ambient.reports
  observeFile : ∀ file observer scene,
    (engine.observeFile file observer scene).2.2.ambient.reports = scene.ambient.reports
  read : ∀ file length scene, (engine.read file length scene).2.2.ambient.reports = scene.ambient.reports
  readAt : ∀ file length offset scene,
    (engine.readAt file length offset scene).2.2.ambient.reports = scene.ambient.reports
  seek : ∀ file goal scene, (engine.seek file goal scene).2.2.ambient.reports = scene.ambient.reports
  cancel : ∀ file scene, (engine.cancel file scene).2.2.ambient.reports = scene.ambient.reports
  dropFile : ∀ file scene, (engine.dropFile file scene).2.ambient.reports = scene.ambient.reports
  abandonFile : ∀ file scene, (engine.abandonFile file scene).ambient.reports = scene.ambient.reports

namespace Boundary.Caller

variable {World α β : Type} {engine : Engine}

structure Settles (before : Caller World) (outcome : Except Failure α) (answer : Option α)
    (after : Caller World) : Prop where
  answer : answer = outcome.toOption
  records : Records (errorsOf outcome) before after

namespace Settles

theorem refused (caller : Caller World) (failure : Failure) :
    Settles caller (.error failure : Except Failure α) none (caller.record failure) :=
  ⟨rfl, Records.record caller failure⟩

theorem accept (caller : Caller World) (result : Except Fault α) :
    Settles caller (allowed result) (caller.accept result).1 (caller.accept result).2 := by
  cases result with
  | ok value => exact ⟨rfl, Records.refl caller⟩
  | error fault => exact refused caller _

theorem settle (caller : Caller World) (result : Result α) :
    Settles caller (resulting result) (caller.settle result).1 (caller.settle result).2 := by
  match result with
  | .answered (.ok answer) => exact ⟨rfl, Records.refl caller⟩
  | .answered (.error status) => exact refused caller _
  | .panicked payload => exact refused caller _

theorem finish (caller : Caller World) (reply : Reply α) :
    Settles caller (finished reply) (caller.finish reply).1 (caller.finish reply).2 := by
  cases reply with
  | answered answer => exact ⟨rfl, Records.refl caller⟩
  | panicked payload => exact refused caller _

/-- What happened before without a report makes no difference. -/
theorem after_silence {before : Caller World} {scene : Scene World} {outcome : Except Failure α}
    {answer : Option α} {after : Caller World}
    (same : scene.ambient.reports = before.scene.ambient.reports)
    (settles : Settles { before with scene } outcome answer after) :
    Settles before outcome answer after :=
  ⟨settles.answer, (Records.silent same).trans settles.records⟩

end Settles

/-- A use of a file comes to what its method comes to, once both handles and the arguments
are in order. -/
def useOutcome (scene : Scene engine.World) (session : Option engine.Session)
    (file : Option engine.File) (arguments : Except Fault β)
    (operation : engine.File → β → Scene engine.World →
      Result α × engine.File × Scene engine.World) : Except Failure α := do
  let held ← allowed (checkedFile session file)
  let arguments ← allowed arguments
  resulting (operation held arguments scene).1

theorem useFile_settles (caller : Caller engine.World) (session : Option engine.Session)
    (file : Option engine.File) (arguments : Except Fault β)
    (operation : engine.File → β → Scene engine.World →
      Result α × engine.File × Scene engine.World)
    (silent : ∀ held argument scene,
      (operation held argument scene).2.2.ambient.reports = scene.ambient.reports) :
    Settles caller (useOutcome caller.scene session file arguments operation)
      (caller.useFile session file arguments operation).1
      (caller.useFile session file arguments operation).2.2 := by
  unfold useFile useOutcome
  cases checkedFile session file with
  | error fault => exact Settles.refused caller _
  | ok held =>
    cases arguments with
    | error fault => exact Settles.refused caller _
    | ok argument => exact (Settles.settle _ _).after_silence (silent held argument caller.scene)

def readingAt (file : engine.File) (place : Nat × Nat) (scene : Scene engine.World) :
    Result Transfer × engine.File × Scene engine.World :=
  engine.readAt file place.2 place.1 scene

def canceling (file : engine.File) (_ : Unit) (scene : Scene engine.World) :
    Result Unit × engine.File × Scene engine.World :=
  let (reply, file, scene) := engine.cancel file scene
  (reply.map .ok, file, scene)

def closeOutcome (scene : Scene engine.World) (session : Option engine.Session)
    (file : Option engine.File) : Except Failure Unit := do
  let held ← allowed (checkedFile session file)
  finished (engine.dropFile held scene).1

theorem close_settles (silent : engine.Silent) (caller : Caller engine.World)
    (session : Option engine.Session) (file : Option engine.File) :
    Settles caller (closeOutcome caller.scene session file) (caller.close session file).1
      (caller.close session file).2.2 := by
  unfold close closeOutcome
  cases checkedFile session file with
  | error fault => exact Settles.refused caller _
  | ok held => exact (Settles.finish _ _).after_silence (silent.dropFile held caller.scene)

def disconnectOutcome (scene : Scene engine.World) : Option engine.Session → Except Failure Unit
  | none => .error (.refused .nullDisconnect)
  | some session => finished (engine.dropSession session scene).1

theorem disconnect_settles (silent : engine.Silent) (caller : Caller engine.World)
    (session : Option engine.Session) :
    Settles caller (disconnectOutcome caller.scene session) (caller.disconnect session).1
      (caller.disconnect session).2 := by
  cases session with
  | none => exact Settles.refused caller _
  | some session => exact (Settles.finish _ _).after_silence (silent.dropSession session caller.scene)

/-- The observer that waits in the slots is part of an open that succeeds. -/
def adoptOutcome (caller : Caller engine.World) (file : engine.File) : Except Failure engine.File :=
  let (reply, file, _) := observeFile file caller.slots.fileObserver caller.scene
  (finished reply).map fun () => file

theorem adoptFile_settles (silent : engine.Silent) (caller : Caller engine.World) (file : engine.File) :
    Settles caller (adoptOutcome caller file) (caller.adoptFile file).1 (caller.adoptFile file).2 := by
  have quiet : (observeFile file caller.slots.fileObserver caller.scene).2.2.ambient.reports =
      caller.scene.ambient.reports := by
    unfold observeFile
    cases caller.slots.fileObserver with
    | none => rfl
    | some observer => exact silent.observeFile file observer caller.scene
  unfold adoptFile adoptOutcome
  cases got : observeFile file caller.slots.fileObserver caller.scene with
  | mk reply rest =>
    obtain ⟨file, scene⟩ := rest
    rw [got] at quiet
    cases reply with
    | answered answer => exact ⟨rfl, Records.silent quiet⟩
    | panicked payload =>
      exact (Settles.refused _ _).after_silence ((silent.abandonFile file scene).trans quiet)

def openOutcome (caller : Caller engine.World) (session : Option engine.Session) (path : Given) :
    Except Failure engine.File :=
  match session with
  | none => .error (.refused .nullSession)
  | some session =>
    match requiredText "path" path with
    | .error fault => .error (.refused fault)
    | .ok path =>
      let (result, _, scene) := engine.openFile session path caller.scene
      (resulting result).bind (adoptOutcome { caller with scene })

theorem openFile_settles (silent : engine.Silent) (caller : Caller engine.World)
    (session : Option engine.Session) (path : Given) :
    Settles caller (openOutcome caller session path) (caller.openFile session path).1
      (caller.openFile session path).2.2 := by
  unfold openFile openOutcome
  cases session with
  | none => exact Settles.refused caller _
  | some session =>
    cases requiredText "path" path with
    | error fault => exact Settles.refused caller _
    | ok path =>
      have quiet := silent.openFile session path caller.scene
      cases got : engine.openFile session path caller.scene with
      | mk result rest =>
        obtain ⟨held, scene⟩ := rest
        rw [got] at quiet
        simp only [got]
        match result with
        | .answered (.ok file) => exact (adoptFile_settles silent _ file).after_silence quiet
        | .answered (.error status) => exact (Settles.refused _ _).after_silence quiet
        | .panicked payload => exact (Settles.refused _ _).after_silence quiet

theorem isReport_connectingNote (endpoint : Endpoint) (user : Option String) :
    (connectingNote endpoint user).isReport = false := by
  cases user <;> simp [connectingNote, Trace.isReport]

theorem reports_reach (silent : engine.Silent) (session : engine.Session) (endpoint : Endpoint)
    (scene : Scene engine.World) :
    (reach session endpoint scene).2.2.ambient.reports = scene.ambient.reports := by
  cases endpoint with
  | defaultFs => exact silent.connectDefault session scene
  | explicit host port => exact silent.connect session host _ scene

theorem reports_observeSession (silent : engine.Silent) (session : engine.Session)
    (observer : Option Observer) (scene : Scene engine.World) :
    (observeSession session observer scene).2.2.ambient.reports = scene.ambient.reports := by
  cases observer with
  | none => rfl
  | some observer => exact silent.observeSession session observer scene

theorem reports_createSession (silent : engine.Silent) (user : String) (options : Options)
    (scene : Scene engine.World) :
    (engine.createSession user options scene).2.ambient.reports = scene.ambient.reports := by
  have made := silent.newService scene
  unfold Engine.createSession
  cases got : engine.newService scene with
  | mk reply after =>
    rw [got] at made
    cases reply with
    | panicked payload => exact made
    | answered service => exact (silent.newSession service user options after).trans made

/-- A release that does not panic comes after the failure was reported, and reports nothing. -/
theorem releaseSession_records (silent : engine.Silent)
    (calm : ∀ session scene, (engine.dropSession session scene).1 = .answered ())
    (caller : Caller engine.World) (session : engine.Session) :
    Records [] caller (caller.releaseSession session).2 := by
  have quiet := silent.dropSession session caller.scene
  have answered := calm session caller.scene
  unfold releaseSession
  cases got : engine.dropSession session caller.scene with
  | mk reply scene =>
    rw [got] at quiet answered
    cases answered
    exact Records.silent quiet

def establishOutcome (caller : Caller engine.World) (session : engine.Session) (endpoint : Endpoint)
    (user : Option String) : Except Failure engine.Session :=
  match observeSession session caller.slots.sessionObserver caller.scene with
  | (.panicked payload, _, _) => .error (.panicked payload)
  | (.answered (), session, scene) =>
    let (result, session, _) := reach session endpoint (scene.trace (connectingNote endpoint user))
    (resulting result).map fun () => session

theorem establish_settles (silent : engine.Silent)
    (calm : ∀ session scene, (engine.dropSession session scene).1 = .answered ())
    (caller : Caller engine.World) (session : engine.Session) (endpoint : Endpoint)
    (user : Option String) :
    Settles caller (establishOutcome caller session endpoint user)
      (caller.establish session endpoint user).1 (caller.establish session endpoint user).2 := by
  have attached := reports_observeSession silent session caller.slots.sessionObserver caller.scene
  unfold establish establishOutcome
  cases observed : observeSession session caller.slots.sessionObserver caller.scene with
  | mk reply rest =>
    obtain ⟨session, scene⟩ := rest
    rw [observed] at attached
    match reply with
    | .panicked payload =>
      exact (Settles.refused _ _).after_silence ((silent.abandonSession session scene).trans attached)
    | .answered () =>
      have noted := Ambient.reports_trace (isReport_connectingNote endpoint user) scene.ambient
      have reached := reports_reach silent session endpoint (scene.trace (connectingNote endpoint user))
      cases got : reach session endpoint (scene.trace (connectingNote endpoint user)) with
      | mk result rest =>
        obtain ⟨session, last⟩ := rest
        rw [got] at reached
        have quiet := reached.trans (noted.trans attached)
        simp only [got]
        match result with
        | .answered (.ok ()) => exact ⟨rfl, Records.silent quiet⟩
        | .panicked payload =>
          exact (Settles.refused _ _).after_silence ((silent.abandonSession session last).trans quiet)
        | .answered (.error status) =>
          have reported := Records.record { caller with scene := last } (.failed status)
          have both := reported.trans (releaseSession_records silent calm _ session)
          rw [List.append_nil] at both
          exact ⟨rfl, (Records.silent quiet).trans both⟩

def connectOutcome (caller : Caller engine.World) (endpoint : Endpoint) (user : Option String)
    (options : Options) : Except Failure engine.Session :=
  match engine.createSession (user.getD "") options caller.scene with
  | (.panicked payload, _) => .error (.panicked payload)
  | (.answered none, _) => .error (.refused .noSession)
  | (.answered (some session), scene) => establishOutcome { caller with scene } session endpoint user

theorem connect_settles (silent : engine.Silent)
    (calm : ∀ session scene, (engine.dropSession session scene).1 = .answered ())
    (caller : Caller engine.World) (endpoint : Endpoint) (user : Option String) (options : Options) :
    Settles caller (connectOutcome caller endpoint user options)
      (caller.connect endpoint user options).1 (caller.connect endpoint user options).2 := by
  have created := reports_createSession silent (user.getD "") options caller.scene
  unfold connect connectOutcome
  cases made : engine.createSession (user.getD "") options caller.scene with
  | mk reply scene =>
    rw [made] at created
    match reply with
    | .panicked payload => exact (Settles.refused _ _).after_silence created
    | .answered none => exact (Settles.refused _ _).after_silence created
    | .answered (some session) =>
      exact (establish_settles silent calm _ session endpoint user).after_silence created

def directOutcome (caller : Caller engine.World) (host : Given) (port : UInt16) (user : Given) :
    Except Failure engine.Session :=
  match optionalText "nn" host with
  | .error fault => .error (.refused fault)
  | .ok host =>
    match optionalText "user" user with
    | .error fault => .error (.refused fault)
    | .ok user => connectOutcome caller (.resolve host (portOverride port)) user {}

theorem connectDirect_settles (silent : engine.Silent)
    (calm : ∀ session scene, (engine.dropSession session scene).1 = .answered ())
    (caller : Caller engine.World) (host : Given) (port : UInt16) (user : Given) :
    Settles caller (directOutcome caller host port user) (caller.connectDirect host port user).1
      (caller.connectDirect host port user).2 := by
  unfold connectDirect directOutcome
  cases optionalText "nn" host with
  | error fault => exact Settles.refused caller _
  | ok host =>
    cases optionalText "user" user with
    | error fault => exact Settles.refused caller _
    | ok user => exact connect_settles silent calm caller _ user {}

variable [Formats]

def builderOutcome (caller : Caller engine.World) : Option Builder → Except Failure engine.Session
  | none => .error (.refused .nullBuilder)
  | some builder =>
    let (options, scene) := caller.scene.optionsOf builder.snapshot
    connectOutcome { caller with scene } builder.endpoint builder.user options

theorem reports_optionsOf (scene : Scene engine.World) (snapshot : Snapshot) :
    (scene.optionsOf snapshot).2.ambient.reports = scene.ambient.reports := by
  unfold Scene.optionsOf
  cases Options.defaultFsProblem? snapshot with
  | none => rfl
  | some problem => exact Ambient.reports_trace (by simp [Trace.isReport]) scene.ambient

theorem connectBuilder_settles (silent : engine.Silent)
    (calm : ∀ session scene, (engine.dropSession session scene).1 = .answered ())
    (caller : Caller engine.World) (builder : Option Builder) :
    Settles caller (builderOutcome caller builder) (caller.connectBuilder builder).1
      (caller.connectBuilder builder).2 := by
  cases builder with
  | none => exact Settles.refused caller _
  | some builder =>
    exact (connect_settles silent calm _ _ _ _).after_silence (reports_optionsOf caller.scene _)

end Boundary.Caller
end DfsClient
