import DfsClient.Formats.Standard
import DfsClient.Proofs.ErrorSlots
import DfsClient.Proofs.Obedience

/-! Observers can only inject faults. A call that meets no failure reply goes as it would
unobserved, and a call that meets one fails and takes back all that it did. -/

namespace DfsClient
open Boundary Memory

def Call.unobserved : Call → Call
  | .observeSessions _ => .observeSessions none
  | .observeFiles _ => .observeFiles none
  | call => call

namespace Client

/-- The observer whom the events of a call go to. -/
def audience (client : Client engine) (thread : Nat) (call : Call) : Option Observer :=
  match call with
  | .connect .. | .connectBuilder .. => (client.threads thread).sessionObserver
  | .openFile session _ _ => (client.sessions.find? session).bind Session.observer
  | _ => call.usedFile?.bind fun file => (client.files.find? file).bind File.observer

/-- The client once the handle into which a call puts something stands for nothing. -/
def vacate (client : Client engine) (call : Call) : Client engine :=
  match call.newSession?, call.newFile? with
  | some into, _ => client.replaceSession into none
  | none, some into => client.replaceFile into none
  | none, none => client

/-- The client once a simulated failure was reported to a thread. -/
def faulted (client : Client engine) (thread : Nat) (ambient : Ambient) : Client engine :=
  client.resume thread ((client.caller thread).faulted ambient)

theorem lastError_faulted (client : Client engine) (thread : Nat) (ambient : Ambient) :
    ((client.faulted thread ambient).threads thread).lastError = (38, "Simulated error") := by
  have own : (client.faulted thread ambient).caller thread = _ := caller_resume_same ..
  exact congrArg (fun caller => caller.slots.lastError) own

/-- A call that obeys its audience. Its fault leaves the handle that it was to fill without
anything, and everything else as it was. -/
def Obedient (client : Client engine) (thread : Nat) (call : Call) (bare got : Answer × Client engine) :
    Prop :=
  Obeys (client.audience thread call) client.scene.ambient (fun got => (got.1, got.2.unobserved))
    (fun got => got.2.scene.ambient)
    (fun ambient => (call.sentinel (.failed simulated), (client.vacate call).faulted thread ambient)) bare got

section
variable (client : Client engine) (thread : Nat)

/-- What a client makes of the session that a thread got. -/
def connected (into : Handle) (got : Option engine.Session × Caller engine.World) :
    Answer × Client engine :=
  (.handle got.1.isSome, (client.resume thread got.2).replaceSession into got.1)

theorem connected_unobserved (into : Handle) (got : Option engine.Session × Caller engine.World) :
    client.unobserved.connected thread into (got.1.map Session.unobserved, got.2.unobserved) =
      ((client.connected thread into got).1, (client.connected thread into got).2.unobserved) := by
  have replaced := (client.resume thread got.2).replaceSession_unobserved into got.1
  rw [← resume_unobserved] at replaced
  exact Prod.ext (congrArg Answer.handle Option.isSome_map) replaced

theorem connected_faulted (into : Handle) (ambient : Ambient) :
    client.connected thread into (none, (client.caller thread).faulted ambient) =
      (.handle false, (client.replaceSession into none).faulted thread ambient) := by
  cases into with
  | none => rfl
  | some name =>
    unfold connected replaceSession
    dsimp only [Client.resume]
    cases client.sessions.get? name with
    | none => rfl
    | some old => rfl

theorem connected_obeys {call : Call} (into : Handle)
    (answers : call.sentinel (.failed simulated) = .handle false)
    (audience : client.audience thread call = (client.threads thread).sessionObserver)
    (vacates : client.vacate call = client.replaceSession into none)
    {bare got : Option engine.Session × Caller engine.World}
    (obeys : (client.caller thread).Obedient bare got) :
    client.Obedient thread call (client.unobserved.connected thread into bare)
      (client.connected thread into got) := by
  unfold Obedient
  rw [audience, answers, vacates]
  refine obeys.lift (fun same => ⟨?_, ?_⟩) fun ambient same => ⟨ambient, .refl _ _, ?_⟩
  · unfold connected
    rw [ambient_replaceSession]
    exact .refl _ _
  · exact (congrArg (client.unobserved.connected thread into) same).trans
      (client.connected_unobserved thread into got)
  · exact (congrArg (client.connected thread into) same).trans (client.connected_faulted thread into ambient)

/-- What a client makes of the file that a thread got. -/
def opened (session into : Handle)
    (got : Option engine.File × Option engine.Session × Caller engine.World) : Answer × Client engine :=
  (.handle got.1.isSome,
    Client.replaceFile
      { client.resume thread got.2.2 with sessions := client.sessions.update session got.2.1 } into got.1)

theorem opened_unobserved (session into : Handle)
    (got : Option engine.File × Option engine.Session × Caller engine.World) :
    client.unobserved.opened thread session into
        (got.1.map File.unobserved, got.2.1.map Session.unobserved, got.2.2.unobserved) =
      ((client.opened thread session into got).1, (client.opened thread session into got).2.unobserved) := by
  have sessions := Table.map_update Session.unobserved client.sessions session got.2.1
  have replaced := Client.replaceFile_unobserved
    { client.resume thread got.2.2 with sessions := client.sessions.update session got.2.1 } into got.1
  have between := congrArg (fun resumed : Client engine =>
    { resumed with sessions := client.unobserved.sessions.update session (got.2.1.map Session.unobserved) })
    (client.resume_unobserved thread got.2.2)
  have updated := congrArg (fun sessions => { (client.resume thread got.2.2).unobserved with sessions }) sessions
  have moved := congrArg (fun between : Client engine => between.replaceFile into (got.1.map File.unobserved))
    (between.trans updated.symm)
  exact Prod.ext (congrArg Answer.handle Option.isSome_map) (moved.trans replaced)

theorem opened_faulted (session into : Handle) (ambient : Ambient) :
    client.opened thread session into
        (none, client.sessions.find? session, (client.caller thread).faulted ambient) =
      (.handle false, (client.replaceFile into none).faulted thread ambient) := by
  unfold opened
  dsimp only
  rw [Table.update_find?]
  cases into with
  | none => rfl
  | some name =>
    unfold replaceFile
    dsimp only [Client.resume]
    cases client.files.get? name with
    | none => rfl
    | some old => rfl

theorem openFile_obeys (crossing : ∀ handle held, client.sessions.find? handle = some held →
      Crossing (Session.observer held)) (session : Handle) (path : Given) (into : Handle) :
    client.Obedient thread (.openFile session path into)
      (client.unobserved.openFile thread session path into)
      (client.openFile thread session path into) := by
  have obeys := (client.caller thread).openFile_obeys (client.sessions.find? session)
    (crossing session) path
  have bare : client.unobserved.openFile thread session path into =
      client.unobserved.opened thread session into ((client.caller thread).unobserved.openFile
        ((client.sessions.find? session).map Session.unobserved) path) :=
    congrArg (fun held => client.unobserved.opened thread session into
      ((client.caller thread).unobserved.openFile held path)) (client.find_session_unobserved session)
  rw [bare]
  refine obeys.lift (fun same => ⟨?_, ?_⟩) fun ambient same => ⟨ambient, .refl _ _, ?_⟩
  · unfold Client.openFile
    dsimp only
    rw [ambient_replaceFile]
    exact .refl _ _
  · exact (congrArg (client.unobserved.opened thread session into) same).trans
      (client.opened_unobserved thread session into _)
  · exact (congrArg (client.opened thread session into) same).trans
      (client.opened_faulted thread session into ambient)

/-- What a client makes of a file that a thread used. -/
def used {α : Type} (file : Handle) (got : Option α × Option engine.File × Caller engine.World) :
    Option α × Client engine :=
  (got.1, { client.resume thread got.2.2 with files := client.files.update file got.2.1 })

theorem used_unobserved {α : Type} (file : Handle)
    (got : Option α × Option engine.File × Caller engine.World) :
    client.unobserved.used thread file (got.1, got.2.1.map File.unobserved, got.2.2.unobserved) =
      ((client.used thread file got).1, (client.used thread file got).2.unobserved) := by
  have files := Table.map_update File.unobserved client.files file got.2.1
  have resumed := congrArg (fun resumed : Client engine =>
    { resumed with files := client.unobserved.files.update file (got.2.1.map File.unobserved) })
    (client.resume_unobserved thread got.2.2)
  have updated := congrArg (fun files => { (client.resume thread got.2.2).unobserved with files }) files
  exact Prod.ext rfl (resumed.trans updated.symm)

theorem used_faulted {α : Type} (file : Handle) (ambient : Ambient) :
    client.used thread file ((none : Option α), client.files.find? file, (client.caller thread).faulted ambient) =
      (none, client.faulted thread ambient) := by
  unfold used
  dsimp only
  rw [Table.update_find?]
  rfl

theorem useFile_obeys [Formats] {α β : Type} {call : Call} (crossing : ∀ handle held,
      client.files.find? handle = some held → Crossing (File.observer held)) (session file : Handle)
    (arguments : Except Fault β)
    (operation : engine.File → β → Scene engine.World → Result α × engine.File × Scene engine.World)
    (obeys : ∀ held argument scene, Crossing (File.observer held) → File.Obedient held scene
      (operation (File.unobserved held) argument scene.unobserved) (operation held argument scene))
    (present : Option α → Answer) (absent : present none = call.sentinel (.failed simulated))
    (audience : client.audience thread call = (client.files.find? file).bind File.observer)
    (vacates : client.vacate call = client)
    (called : ∀ client : Client engine, client.call thread call =
      let (answer, after) := client.useFile thread session file
        fun caller session file => caller.useFile session file arguments operation
      (present answer, after)) :
    client.Obedient thread call (client.unobserved.call thread call) (client.call thread call) := by
  have uses := (client.caller thread).useFile_obeys (client.sessions.find? session)
    (client.files.find? file) (crossing file) arguments operation obeys
  have sessions := client.find_session_unobserved session
  have files := client.find_file_unobserved file
  unfold Obedient
  rw [called, called, audience, ← absent, vacates]
  refine uses.lift (fun same => ⟨.refl _ _, ?_⟩) fun ambient same => ⟨ambient, .refl _ _, ?_⟩
  · have bare := congrArg₂ (fun session held => client.unobserved.used thread file
      ((client.caller thread).unobserved.useFile session held arguments operation)) sessions files
    have goes := (bare.trans (congrArg (client.unobserved.used thread file) same)).trans
      (client.used_unobserved thread file _)
    exact congrArg (fun got => (present got.1, got.2)) goes
  · have fails := (congrArg (client.used thread file) same).trans (client.used_faulted thread file ambient)
    exact congrArg (fun got => (present got.1, got.2)) fails

theorem disconnect_obeys (session : Handle) :
    client.Obedient thread (.disconnect session) (client.unobserved.disconnect thread session)
      (client.disconnect thread session) := by
  obtain ⟨tells, disconnects⟩ := (client.caller thread).disconnect_unobserved
    (client.audience thread (.disconnect session)) (client.sessions.find? session)
  let shape (client : Client engine) (got : Option Unit × Caller engine.World) : Answer × Client engine :=
    (.ofUnit got.1, { client.resume thread got.2 with sessions := client.sessions.update session none })
  let got := (client.caller thread).disconnect (client.sessions.find? session)
  have bare := congrArg (fun held => shape client.unobserved ((client.caller thread).unobserved.disconnect held))
    (client.find_session_unobserved session)
  have resumed := congrArg (fun resumed : Client engine =>
    { resumed with sessions := client.unobserved.sessions.update session none })
    (client.resume_unobserved thread got.2)
  have updated := congrArg (fun sessions => { (client.resume thread got.2).unobserved with sessions })
    (Table.map_update Session.unobserved client.sessions session none)
  refine .silent tells.toHears ((bare.trans (congrArg (shape client.unobserved) disconnects)).trans ?_)
  exact Prod.ext rfl (resumed.trans updated.symm)

section
variable [Formats]

theorem closeFile_obeys (session file : Handle) :
    client.Obedient thread (.closeFile session file)
      (client.unobserved.call thread (.closeFile session file)) (client.call thread (.closeFile session file)) := by
  obtain ⟨tells, closes⟩ := (client.caller thread).close_unobserved
    (client.audience thread (.closeFile session file)) (client.sessions.find? session)
    (client.files.find? file)
  have bare := congrArg₂ (fun session held => client.unobserved.used thread file
    ((client.caller thread).unobserved.close session held))
    (client.find_session_unobserved session) (client.find_file_unobserved file)
  have goes := (bare.trans (congrArg (client.unobserved.used thread file) closes)).trans
    (client.used_unobserved thread file _)
  exact .silent tells.toHears (congrArg (fun got => (Answer.ofUnit got.1, got.2)) goes)

theorem isOpen_obeys (file : Handle) :
    client.Obedient thread (.isOpenForRead file)
      (client.unobserved.call thread (.isOpenForRead file)) (client.call thread (.isOpenForRead file)) := by
  have held := congrArg Option.isSome (client.find_file_unobserved file)
  have same : (client.unobserved.files.find? file).isSome = (client.files.find? file).isSome :=
    held.trans Option.isSome_map
  refine .silent (.refl _ _) ?_
  exact congrArg (fun present : Bool => (Answer.code (if present then 1 else 0), client.unobserved)) same

theorem directoryBuilder_unobserved (observer : Option Observer) (directory : Given) :
    client.scene.ambient.Tells observer []
        (client.directoryBuilder (client.caller thread) directory).2.scene.ambient ∧
      client.unobserved.directoryBuilder (client.caller thread).unobserved directory =
        ((client.directoryBuilder (client.caller thread) directory).1,
          (client.directoryBuilder (client.caller thread) directory).2.unobserved) := by
  cases given : requiredText "configDirectory" directory with
  | error fault =>
    unfold directoryBuilder
    rw [given]
    exact ⟨Caller.tells_record observer (client.caller thread) _,
      congrArg (Prod.mk none) (Caller.record_unobserved (client.caller thread) _)⟩
  | ok text =>
    let path := Config.SearchPath.set {} text
    rw [directoryBuilder_ok client _ given, directoryBuilder_ok client.unobserved _ given]
    exact ⟨Caller.tells_loading observer (client.caller thread) client.tree path,
      Caller.loading_unobserved (client.caller thread) client.tree path⟩

end

/-- A thread that got a builder, or none, keeps it under a handle. -/
theorem keepBuilder_obeys {call : Call} (into : Handle) {bare got : Option Builder × Caller engine.World}
    (tells : client.scene.ambient.Tells (client.audience thread call) [] got.2.scene.ambient)
    (same : bare = (got.1, got.2.unobserved)) :
    client.Obedient thread call
      (.handle bare.1.isSome, (client.unobserved.resume thread bare.2).keepBuilder into bare.1)
      (.handle got.1.isSome, (client.resume thread got.2).keepBuilder into got.1) := by
  subst same
  refine .silent tells.toHears (congrArg (Prod.mk _) ?_)
  exact congrArg (fun resumed : Client engine => resumed.keepBuilder into got.1)
    (client.resume_unobserved thread got.2)

theorem reportFault_unobserved {α : Type} (caller : Caller engine.World) (result : Except Fault α) :
    client.unobserved.reportFault thread caller.unobserved result =
      (client.reportFault thread caller result).unobserved := by
  have accepted := congrArg (fun got => client.unobserved.resume thread got.2) (caller.accept_unobserved result)
  exact accepted.trans (client.resume_unobserved thread _)

theorem reportFault_obeys {α : Type} {call : Call} (answer : Answer) (result : Except Fault α) :
    client.Obedient thread call
      (answer, client.unobserved.reportFault thread (client.caller thread).unobserved result)
      (answer, client.reportFault thread (client.caller thread) result) :=
  .silent (Caller.tells_accept _ (client.caller thread) result).toHears
    (congrArg (Prod.mk answer) (client.reportFault_unobserved thread (client.caller thread) result))

theorem changeBuilder_obeys (builder : Handle) (change : Change) :
    client.Obedient thread (.changeBuilder builder change)
      (client.unobserved.changeBuilder thread builder change)
      (client.changeBuilder thread builder change) := by
  unfold changeBuilder
  dsimp only
  rw [show client.unobserved.builders = client.builders from rfl]
  cases changed (client.builders.find? builder) change with
  | ok kept =>
    refine .silent (.refl _ _) (congrArg (Prod.mk _) ?_)
    exact congrArg (fun resumed : Client engine => resumed.keepBuilder builder (some kept))
      (client.resume_unobserved thread (client.caller thread))
  | error fault => exact client.reportFault_obeys (α := Builder) thread _ (.error fault)

/-- Lookups in a default builder, which may be missing. -/
theorem default_obeys [Formats] {α : Type} {call : Call} (look : Builder → Except Fault α)
    (present : Except Fault α → Answer) (absent : Answer)
    (missing : ∀ (client : Client engine) caller, client.defaultBuilder (client.caller thread) = (none, caller) →
      client.call thread call = (absent, client.resume thread caller))
    (loaded : ∀ (client : Client engine) builder caller,
      client.defaultBuilder (client.caller thread) = (some builder, caller) →
        client.call thread call = (present (look builder), client.reportFault thread caller (look builder))) :
    client.Obedient thread call (client.unobserved.call thread call) (client.call thread call) := by
  let path := Config.SearchPath.ofVariables client.environment
  have tells := Caller.tells_loading (client.audience thread call) (client.caller thread) client.tree path
  have bare := Caller.loading_unobserved (client.caller thread) client.tree path
  change client.unobserved.defaultBuilder (client.unobserved.caller thread) =
    ((client.defaultBuilder (client.caller thread)).1,
      (client.defaultBuilder (client.caller thread)).2.unobserved) at bare
  change client.scene.ambient.Tells _ [] (client.defaultBuilder (client.caller thread)).2.scene.ambient at tells
  cases got : client.defaultBuilder (client.caller thread) with
  | mk builder caller =>
    rw [got] at tells bare
    cases builder with
    | none =>
      rw [missing client caller got, missing client.unobserved caller.unobserved bare]
      exact .silent tells.toHears (congrArg (Prod.mk absent) (client.resume_unobserved thread caller))
    | some builder =>
      rw [loaded client builder caller got, loaded client.unobserved builder caller.unobserved bare]
      refine .silent (tells.trans (Caller.tells_accept _ caller (look builder))).toHears ?_
      exact congrArg (Prod.mk _) (client.reportFault_unobserved thread caller (look builder))

end

/-- A call of a client that is sound obeys its audience. -/
theorem call_obeys [Formats] (client : Client engine) (sound : client.holdings.Sound) (thread : Nat) (call : Call) :
    client.Obedient thread call (client.unobserved.call thread call.unobserved) (client.call thread call) := by
  have waiting : Crossing (client.caller thread).slots.sessionObserver := sound.sessionObserver thread
  cases call with
  | connect host port user into =>
    exact client.connected_obeys thread into rfl rfl rfl
      ((client.caller thread).connectDirect_obeys waiting host port user)
  | connectBuilder builder into =>
    exact client.connected_obeys thread into rfl rfl rfl
      ((client.caller thread).connectBuilder_obeys waiting (client.builders.find? builder))
  | disconnect session => exact client.disconnect_obeys thread session
  | openFile session path into => exact client.openFile_obeys thread sound.session_crossing session path into
  | isOpenForRead file => exact client.isOpen_obeys thread file
  | closeFile session file => exact client.closeFile_obeys thread session file
  | read session file length present =>
    exact client.useFile_obeys thread sound.file_crossing session file (room length present) engine.read
      (fun held count scene crossing => File.read_obeys held crossing count scene) .ofTransfer rfl rfl rfl
      fun _ => rfl
  | readAt session file position length present =>
    exact client.useFile_obeys thread sound.file_crossing session file (roomAt position length present) Caller.readingAt
      (fun held place scene crossing => File.readAt_obeys held crossing place.2 place.1 scene) .ofTransfer
      rfl rfl rfl fun _ => rfl
  | seek session file position =>
    exact client.useFile_obeys thread sound.file_crossing session file (offset "desiredPos" position)
      (fun file start => engine.seek file (.start start))
      (fun held start scene _ => File.seek_obeys held (.start start) scene)
      (fun answer => .ofUnit (answer.map fun _ => ())) rfl rfl rfl fun _ => rfl
  | tell session file =>
    exact client.useFile_obeys thread sound.file_crossing session file (.ok ())
      (fun file () => engine.seek file (.current 0))
      (fun held _ scene _ => File.seek_obeys held (.current 0) scene) .ofPosition rfl rfl rfl fun _ => rfl
  | cancel session file =>
    exact client.useFile_obeys thread sound.file_crossing session file (.ok ()) Caller.canceling
      (fun held _ scene _ => File.cancel_obeys held scene) .ofUnit rfl rfl rfl fun _ => rfl
  | newBuilder into =>
    exact client.keepBuilder_obeys thread into (Caller.tells_loading _ (client.caller thread) client.tree _)
      (Caller.loading_unobserved (client.caller thread) client.tree _)
  | newBuilderFrom directory into =>
    obtain ⟨tells, same⟩ := client.directoryBuilder_unobserved thread
      (client.audience thread (.newBuilderFrom directory into)) directory
    exact client.keepBuilder_obeys thread into tells same
  | freeBuilder builder => exact .silent (.refl _ _) rfl
  | changeBuilder builder change => exact client.changeBuilder_obeys thread builder change
  | lookUpText builder key present => exact client.reportFault_obeys thread _ _
  | lookUpInteger builder key present => exact client.reportFault_obeys thread _ _
  | lookUpDefaultText key present =>
    refine client.default_obeys thread (fun builder => lookUpText (some builder) key present) .ofText
      (.text (-1) none) (fun client caller lost => ?_) (fun client builder caller loaded => ?_)
    · simp only [Client.call, lost]
    · simp only [Client.call, loaded]
  | lookUpDefaultInteger key present =>
    refine client.default_obeys thread (fun builder => lookUpInteger (some builder) key present) .ofInteger
      (.integer (-1) none) (fun client caller lost => ?_) (fun client builder caller loaded => ?_)
    · simp only [Client.call, lost]
    · simp only [Client.call, loaded]
  | observeSessions monitor =>
    refine .silent (.refl _ _) (congrArg (Prod.mk (Answer.code 0)) ?_)
    exact client.resume_unobserved thread { client.caller thread with
      slots := { client.threads thread with sessionObserver := monitor.map .handler } }
  | observeFiles monitor =>
    refine .silent (.refl _ _) (congrArg (Prod.mk (Answer.code 0)) ?_)
    exact client.resume_unobserved thread { client.caller thread with
      slots := { client.threads thread with fileObserver := monitor.map .handler } }
  | logTo handler => exact .silent ⟨rfl, rfl, (List.append_nil _).symm, List.forall_mem_nil _⟩ rfl
  | filterLog request => exact .silent ⟨rfl, rfl, (List.append_nil _).symm, List.forall_mem_nil _⟩ rfl
  | fetchMessage length present buffer => exact .silent (.refl _ _) rfl

/-- Attaching an observer changes nothing else. -/
theorem attach_unobserved [Formats] (client : Client engine) (thread : Nat) {call : Call}
    (attaches : call.attaches = true) :
    (client.call thread call).2.unobserved = client.unobserved := by
  have same := client.resume_unobserved thread (client.caller thread)
  rw [resume_caller] at same
  cases call with
  | observeSessions monitor =>
    let slots := { client.threads thread with sessionObserver := monitor.map .handler }
    exact (client.resume_unobserved thread { client.caller thread with slots }).symm.trans same
  | observeFiles monitor =>
    let slots := { client.threads thread with fileObserver := monitor.map .handler }
    exact (client.resume_unobserved thread { client.caller thread with slots }).symm.trans same
  | _ => cases attaches

theorem unobserved_of_attaches {call : Call} (attaches : call.attaches = false) : call.unobserved = call := by
  cases call with
  | observeSessions | observeFiles => cases attaches
  | _ => rfl

end Client

namespace Act

def attaches : Act → Bool
  | .call _ asked => asked.attaches
  | _ => false

/-- The thread on which a step runs. Steps that are no calls run on the first one. -/
def thread : Act → Nat
  | .call thread _ => thread
  | _ => 0

end Act

namespace Client

section
variable [Formats]

/-- A run as the program sees it: every step with its answer, and the last error of its thread
afterwards. -/
def sights (client : Client engine) : List Act → List (Act × Answer × LastError)
  | [] => []
  | act :: rest =>
    let (answer, after) := client.act act
    (act, answer, (after.threads act.thread).lastError) :: after.sights rest

/-- What a step does to what handlers were told, and to the client without its observers. -/
structure Steps (client : Client engine) (act : Act) (fresh : List Notice) : Prop where
  hears : ∃ observer, client.scene.ambient.Hears observer fresh (client.act act).2.scene.ambient
  attached : act.attaches = true → (client.act act).2.unobserved = client.unobserved
  unobserved : act.attaches = false → failureReply ∉ client.scene.ambient.repliesTo fresh →
    client.unobserved.act act = ((client.act act).1, (client.act act).2.unobserved)

theorem act_steps (client : Client engine) (sound : client.holdings.Sound) (act : Act) :
    ∃ fresh, client.Steps act fresh := by
  cases act with
  | call thread call =>
    obtain ⟨fresh, hears, quiet, -⟩ := (client.call_obeys sound thread call).told_apart fun _ => rfl
    refine ⟨fresh, ⟨_, hears⟩, client.attach_unobserved thread, fun attaches kind => ?_⟩
    have same := quiet kind
    rw [unobserved_of_attaches attaches] at same
    exact same
  | _ => exact ⟨[], ⟨none, .refl none _⟩, nofun, fun _ _ => rfl⟩

/-- Replies that were given stay given. -/
theorem acts_replied (client : Client engine) (sound : client.holdings.Sound)
    (counted : client.scene.ambient.Counted) (history : List Act) :
    client.scene.ambient.replied <+: (client.acts history).2.scene.ambient.replied := by
  induction history generalizing client with
  | nil => exact List.prefix_rfl
  | cons act rest ih =>
    obtain ⟨fresh, ⟨observer, hears⟩, -, -⟩ := client.act_steps sound act
    have later := ih (client.act act).2 (act_sound client act sound) (hears.counted counted)
    rw [hears.replied counted] at later
    exact (List.prefix_append ..).trans later

/-- A run without a failure reply goes as it would if no step of it attached an observer. -/
theorem acts_unobserved (client : Client engine) (sound : client.holdings.Sound)
    (counted : client.scene.ambient.Counted) (history : List Act)
    (kind : failureReply ∉ (client.acts history).2.scene.ambient.replied) :
    (client.unobserved.acts (history.filter fun act => !act.attaches)).2 =
        (client.acts history).2.unobserved ∧
      client.unobserved.sights (history.filter fun act => !act.attaches) =
        (client.sights history).filter fun sight => !sight.1.attaches := by
  induction history generalizing client with
  | nil => exact ⟨rfl, rfl⟩
  | cons act rest ih =>
    obtain ⟨fresh, ⟨observer, hears⟩, attached, unobserved⟩ := client.act_steps sound act
    have sound' := act_sound client act sound
    have counted' := hears.counted counted
    have earlier := acts_replied (client.act act).2 sound' counted' rest
    obtain ⟨last, sights⟩ := ih (client.act act).2 sound' counted' kind
    cases attaches : act.attaches with
    | true =>
      rw [attached attaches] at last sights
      rw [List.filter_cons_of_neg (by simp [attaches])]
      refine ⟨last, sights.trans ?_⟩
      exact (List.filter_cons_of_neg (by simp [attaches])).symm
    | false =>
      have silent : failureReply ∉ client.scene.ambient.repliesTo fresh := by
        intro member
        rw [hears.replied counted] at earlier
        exact kind (earlier.subset (List.mem_append_right _ member))
      have step := unobserved attaches silent
      rw [List.filter_cons_of_pos (by simp [attaches])]
      constructor
      · change ((client.unobserved.act act).2.acts _).2 = _
        rw [step]
        exact last
      · have bare : client.unobserved.sights (act :: rest.filter fun act => !act.attaches) =
            (act, (client.unobserved.act act).1,
              ((client.unobserved.act act).2.threads act.thread).lastError) ::
              (client.unobserved.act act).2.sights (rest.filter fun act => !act.attaches) := rfl
        rw [bare, step, sights]
        exact (List.filter_cons_of_pos (by simp [attaches])).symm

end

theorem start_counted (tree : Config.FileTree) (environment : Config.Variables) (replies : Replies) :
    (start tree environment replies).scene.ambient.Counted := rfl

theorem acts_counted [Formats] (client : Client engine) (sound : client.holdings.Sound)
    (counted : client.scene.ambient.Counted) (history : List Act) :
    (client.acts history).2.scene.ambient.Counted := by
  induction history generalizing client with
  | nil => exact counted
  | cons act rest ih =>
    obtain ⟨fresh, ⟨observer, hears⟩, -, -⟩ := client.act_steps sound act
    exact ih (client.act act).2 (act_sound client act sound) (hears.counted counted)

theorem acts_replies [Formats] (client : Client engine) (sound : client.holdings.Sound) (history : List Act) :
    (client.acts history).2.scene.ambient.replies = client.scene.ambient.replies := by
  induction history generalizing client with
  | nil => rfl
  | cons act rest ih =>
    obtain ⟨fresh, ⟨observer, hears⟩, -, -⟩ := client.act_steps sound act
    exact (ih (client.act act).2 (act_sound client act sound)).trans hears.replies

/-- Handlers that always give the same reply are kind if it asks for no failure. -/
theorem start_kind (tree : Config.FileTree) (environment : Config.Variables) {reply : Int32}
    (kindly : reply ≠ failureReply) : (start tree environment fun _ _ _ => reply).scene.ambient.Kind :=
  fun _ _ _ => kindly

theorem acts_kind [Formats] (client : Client engine) (sound : client.holdings.Sound) (kind : client.scene.ambient.Kind)
    (history : List Act) : (client.acts history).2.scene.ambient.Kind := by
  intro earlier monitor event
  rw [acts_replies client sound history]
  exact kind earlier monitor event

/-- The handles into which a call puts something stand for nothing yet. -/
structure Vacant (client : Client engine) (call : Call) : Prop where
  session : ∀ into, call.newSession? = some into → client.sessions.find? into = none
  file : ∀ into, call.newFile? = some into → client.files.find? into = none

theorem vacate_vacant {client : Client engine} {call : Call} (vacant : client.Vacant call) :
    client.vacate call = client := by
  unfold vacate
  cases sessions : call.newSession? with
  | some into =>
    have free := vacant.session into sessions
    have same := Table.update_find? client.sessions into
    rw [free] at same
    cases into with
    | none => rfl
    | some name =>
      have absent : client.sessions.get? name = none := free
      dsimp only
      unfold replaceSession
      dsimp only
      rw [absent, same]
  | none =>
    cases files : call.newFile? with
    | some into =>
      have free := vacant.file into files
      have same := Table.update_find? client.files into
      rw [free] at same
      cases into with
      | none => rfl
      | some name =>
        have absent : client.files.get? name = none := free
        dsimp only
        unfold replaceFile
        dsimp only
        rw [absent, same]
    | none => rfl

/-- Only calls that can say so are made to fail. -/
theorem failing_of_audience {client : Client engine} {thread : Nat} {call : Call} {observer : Observer}
    (audience : client.audience thread call = some observer) :
    call.failing (call.sentinel (.failed simulated)) = true := by
  cases call with
  | connect | connectBuilder | openFile | read | readAt | seek | tell | cancel => rfl
  | _ => cases audience

/-- Observers that never ask for a failure can be exchanged and taken away without a
difference to the program. One that does makes the call fail whose event it was told of. The call then
leaves the simulated error, and undoes all else that it did. -/
theorem observers_only_inject_faults [Formats] (tree : Config.FileTree) (environment : Config.Variables) :
    (∀ replies replies' history history',
      (history.filter fun act => !act.attaches) = (history'.filter fun act => !act.attaches) →
      let before := start tree environment replies
      let before' := start tree environment replies'
      let after := (before.acts history).2
      let after' := (before'.acts history').2
      failureReply ∉ after.scene.ambient.replied → failureReply ∉ after'.scene.ambient.replied →
        ((before.sights history).filter fun sight => !sight.1.attaches) =
            ((before'.sights history').filter fun sight => !sight.1.attaches) ∧
          after.unobserved = after'.unobserved) ∧
    ∀ replies history thread call,
      let client := ((start tree environment replies).acts history).2
      let (answer, after) := client.call thread call
      ∃ fresh, after.scene.ambient.replied = client.scene.ambient.replied ++ fresh ∧
        (failureReply ∉ fresh →
          client.unobserved.call thread call.unobserved = (answer, after.unobserved)) ∧
        (failureReply ∈ fresh →
          answer = call.sentinel (.failed simulated) ∧ call.failing answer = true ∧
          (after.threads thread).lastError = (38, "Simulated error") ∧
          (client.Vacant call → client.vacate call = client) ∧
          ∃ ambient, after = (client.vacate call).faulted thread ambient ∧
            ambient.filter = client.scene.ambient.filter ∧
            (ambient.sink = client.scene.ambient.sink ∨ ambient.sink = .discard) ∧
            client.scene.ambient.seen <+: ambient.seen) := by
  constructor
  · intro replies replies' history history' same before before' after after' kind kind'
    obtain ⟨last, sights⟩ := acts_unobserved before (start_sound ..) (start_counted ..) history kind
    obtain ⟨last', sights'⟩ := acts_unobserved before' (start_sound ..) (start_counted ..) history' kind'
    have blank : before.unobserved = before'.unobserved := rfl
    rw [same, blank] at last sights
    exact ⟨sights.symm.trans sights', last.symm.trans last'⟩
  · intro replies history thread call client
    have sound : client.holdings.Sound := reached_sound tree environment replies history
    have counted : client.scene.ambient.Counted := acts_counted _ (start_sound ..) (start_counted ..) history
    obtain ⟨fresh, hears, quiet, faulty⟩ := (client.call_obeys sound thread call).told_apart fun _ => rfl
    generalize client.call thread call = got at hears quiet faulty
    obtain ⟨answer, after⟩ := got
    refine ⟨client.scene.ambient.repliesTo fresh, hears.replied counted, quiet, fun unkind => ?_⟩
    obtain ⟨ambient, tells, same⟩ := faulty unkind
    cases same
    refine ⟨rfl, ?_, ?_, vacate_vacant, ambient, rfl, tells.filter, tells.sink, tells.seen⟩
    · cases fresh with
      | nil => cases unkind
      | cons notice rest => exact failing_of_audience (tells.addressed notice List.mem_cons_self)
    · exact lastError_faulted ..

/-- A program that reads from a file, with observers attached beforehand or none. -/
def reading (monitor : Option Monitor) : List Act :=
  [.addCluster 0 "h" 8020 "c", .putFile 0 "/a" ⟨[104, 101, 108, 108, 111], by decide⟩,
    .call 0 (.observeSessions monitor), .call 0 (.observeFiles monitor),
    .call 0 (.connect (some [104]) 0 none (some "s")),
    .call 0 (.openFile (some "s") (some [47, 97]) (some "f")), .call 0 (.read (some "s") (some "f") 2 true)]

/-- A client with an observer of sessions that asks for a failure whenever it is told of something. -/
def contrary [Formats] : Client engine :=
  ((start ⟨fun _ => .missing⟩ {} fun _ _ _ => -1).acts [.call 0 (.observeSessions (some ⟨4096, 5⟩))]).2

open scoped Formats.Standard

theorem reading_observed_or_not :
    let polite := start ⟨fun _ => .missing⟩ {} fun _ _ _ => 7
    let (answer, after) := contrary.call 0 (.connect none 8020 none (some "s"))
    ((polite.sights (reading (some ⟨4096, 5⟩))).filter fun sight => !sight.1.attaches) =
        ((polite.sights (reading none)).filter fun sight => !sight.1.attaches) ∧
      after.scene.ambient.replied = [-1] ∧ answer = .handle false ∧
      (after.threads 0).lastError = (38, "Simulated error") ∧
      ∃ ambient, after = contrary.faulted 0 ambient := by
  have told : (contrary.call 0 (.connect none 8020 none (some "s"))).2.scene.ambient.replied = [-1] := by
    rfl
  intro polite
  obtain ⟨transparent, atomic⟩ := observers_only_inject_faults ⟨fun _ => .missing⟩ {}
  have sevens : polite.scene.ambient.Kind := start_kind _ _ (by decide)
  have kind (history : List Act) : failureReply ∉ (polite.acts history).2.scene.ambient.replied :=
    (acts_kind polite (start_sound ..) sevens history).replied
  have same := transparent _ _ (reading (some ⟨4096, 5⟩)) (reading none) rfl (kind _) (kind _)
  obtain ⟨fresh, replied, -, fault⟩ := atomic (fun _ _ _ => -1)
    [.call 0 (.observeSessions (some ⟨4096, 5⟩))] 0 (.connect none 8020 none (some "s"))
  have asked : fresh = [-1] := replied.symm.trans told
  have unkind : failureReply ∈ fresh := asked ▸ List.mem_singleton_self _
  obtain ⟨answered, -, error, vacant, ambient, undone, -⟩ := fault unkind
  have free : contrary.Vacant (.connect none 8020 none (some "s")) :=
    ⟨fun into same => by cases same; rfl, fun into => nofun⟩
  have kept := vacant free
  refine ⟨same.1, told, answered, error, ambient, undone.trans ?_⟩
  exact congrArg (fun client : Client engine => client.faulted 0 ambient) kept

end Client
end DfsClient
