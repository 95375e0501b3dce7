import DfsClient.Proofs.CallOutcome
import DfsClient.Proofs.Handles
import DfsClient.Proofs.Tables

/-! What a client of the memory engine holds, and all that a call may do to it. -/

namespace DfsClient
open Boundary

/-- A handle into which a call puts a session that it makes. -/
def Call.newSession? : Call → Option Handle
  | .connect _ _ _ into | .connectBuilder _ into => some into
  | _ => none

def Call.endedSession? : Call → Option Handle
  | .disconnect session => some session
  | _ => none

/-- A handle into which a call puts a file that it opens. -/
def Call.newFile? : Call → Option Handle
  | .openFile _ _ into => some into
  | _ => none

def Call.endedFile? : Call → Option Handle
  | .closeFile _ file => some file
  | _ => none

/-- The file on which a call works, which it leaves where it is. -/
def Call.usedFile? : Call → Option Handle
  | .read _ file _ _ | .readAt _ file _ _ _ | .seek _ file _ | .tell _ file | .cancel _ file =>
    some file
  | _ => none

def Call.attaches : Call → Bool
  | .observeSessions _ | .observeFiles _ => true
  | _ => false

/-- A call with an answer that neither makes nor ends a session. -/
def Call.plain (call : Call) (answer : Answer) : Prop :=
  call.newSession? = none ∧ (call.endedSession? = none ∨ answer ≠ .code 0)

/-- A call with an answer that neither makes nor ends anything, nor attaches an observer. -/
structure Call.Idle (call : Call) (answer : Answer) : Prop where
  plain : call.plain answer
  opens : call.newFile? = none
  closes : call.endedFile? = none ∨ answer ≠ .code 0
  attaches : call.attaches = false

theorem Call.plain_opens {call : Call} {into : Handle} (asks : call.newFile? = some into)
    (answer : Answer) : call.plain answer := by
  cases call with
  | openFile => exact ⟨rfl, .inl rfl⟩
  | _ => cases asks

theorem Call.plain_uses {call : Call} {handle : Handle} (asks : call.usedFile? = some handle)
    (answer : Answer) : call.plain answer := by
  cases call with
  | read | readAt | seek | tell | cancel => exact ⟨rfl, .inl rfl⟩
  | _ => cases asks

theorem Call.plain_closes {call : Call} {handle : Handle} (asks : call.endedFile? = some handle)
    (answer : Answer) : call.plain answer := by
  cases call with
  | closeFile => exact ⟨rfl, .inl rfl⟩
  | _ => cases asks

theorem Call.idle_uses {call : Call} {handle : Handle} (asks : call.usedFile? = some handle)
    (answer : Answer) : call.Idle answer := by
  cases call with
  | read | readAt | seek | tell | cancel => exact ⟨⟨rfl, .inl rfl⟩, rfl, .inl rfl, rfl⟩
  | _ => cases asks

/-- The engine's world, the sessions and files that are held, and the observers that wait on
each thread. -/
structure Holdings where
  world : Memory.World
  sessions : Table Memory.Session
  files : Table Memory.File
  sessionObserver : Nat → Option Observer
  fileObserver : Nat → Option Observer

def Client.holdings (client : Client Memory.engine) : Holdings where
  world := client.scene.world
  sessions := client.sessions
  files := client.files
  sessionObserver thread := (client.threads thread).sessionObserver
  fileObserver thread := (client.threads thread).fileObserver

namespace Holdings
open Memory

def worldWithout (world : World) : Option Session → World
  | some session => world.removeService session.engine
  | none => world

/-- A handle comes to stand for a session or for nothing, and the surplus is released. -/
def keepSession (held : Holdings) (into : Handle) (got : Option Session) : Holdings :=
  { held with
    world := worldWithout held.world (held.sessions.surplus into got)
    sessions := held.sessions.update into got }

def serve (held : Holdings) : Holdings :=
  { held with world := held.world.addService held.world.installed }

def keepFile (held : Holdings) (into : Handle) (got : Option File) : Holdings :=
  { held with files := held.files.update into got }

/-- What a call on a thread does to what is held. -/
inductive Changes (thread : Nat) (held : Holdings) (call : Call) : Answer → Holdings → Prop
  | connects {into : Handle} {session : Session} (asks : call.newSession? = some into)
      (engine : session.engine = held.world.installed)
      (observer : session.observer = held.sessionObserver thread)
      (bound : ∃ id, held.world.Registered held.world.installed id ∧ session.cluster = some id) :
      Changes thread held call (.handle true) (held.serve.keepSession into (some session))
  | connectsNot {into : Handle} (asks : call.newSession? = some into) :
      Changes thread held call (.handle false) (held.keepSession into none)
  | disconnects {name : String} {session : Session} (asks : call.endedSession? = some (some name))
      (found : held.sessions.get? name = some session) :
      Changes thread held call (.code 0) (held.keepSession (some name) none)
  | opens {into : Handle} {file : File} (asks : call.newFile? = some into)
      (position : file.position = 0) (observer : file.observer = held.fileObserver thread)
      (content : ∃ id path, (held.world.clusters id).files.get? path = some file.bytes) :
      Changes thread held call (.handle true) (held.keepFile into (some file))
  | opensNot {into : Handle} (asks : call.newFile? = some into) :
      Changes thread held call (.handle false) (held.keepFile into none)
  | uses {answer : Answer} {handle : Handle} {before after : File}
      (asks : call.usedFile? = some handle) (found : held.files.find? handle = some before)
      (moves : before.Moves after) :
      Changes thread held call answer (held.keepFile handle (some after))
  | closes {handle : Handle} (asks : call.endedFile? = some handle) :
      Changes thread held call (.code 0) (held.keepFile handle none)
  | awaitsSessions {monitor : Option Monitor} (asks : call = .observeSessions monitor) :
      Changes thread held call (.code 0) { held with
        sessionObserver := Function.update held.sessionObserver thread (monitor.map .handler) }
  | awaitsFiles {monitor : Option Monitor} (asks : call = .observeFiles monitor) :
      Changes thread held call (.code 0) { held with
        fileObserver := Function.update held.fileObserver thread (monitor.map .handler) }
  | nothing {answer : Answer} (idle : call.Idle answer) : Changes thread held call answer held

end Holdings

namespace Client
open Memory Holdings

theorem waiting_foldl (errors : List LastError) (slots : Slots) :
    (errors.foldl Slots.withError slots).sessionObserver = slots.sessionObserver ∧
      (errors.foldl Slots.withError slots).fileObserver = slots.fileObserver := by
  induction errors generalizing slots with
  | nil => exact ⟨rfl, rfl⟩
  | cons error rest ih => exact ih (slots.withError error)

variable {client : Client engine} {thread : Nat}

theorem holdings_resume {errors : List LastError} {caller : Caller engine.World}
    (records : Caller.Records errors (client.caller thread) caller) :
    (client.resume thread caller).holdings = { client.holdings with world := caller.scene.world } := by
  obtain ⟨sessions, files⟩ := waiting_foldl errors (client.caller thread).slots
  rw [← records.slots] at sessions files
  have each (other : Nat) : ((client.resume thread caller).threads other).sessionObserver =
        (client.threads other).sessionObserver ∧
      ((client.resume thread caller).threads other).fileObserver =
        (client.threads other).fileObserver := by
    by_cases same : other = thread
    · subst same
      simpa [Client.resume, Client.caller] using And.intro sessions files
    · rw [threads_resume_other client caller same]
      exact ⟨rfl, rfl⟩
  simp only [holdings, each]
  rfl

theorem holdings_replaceSession (client : Client engine) (into : Handle) (got : Option engine.Session) :
    (client.replaceSession into got).holdings = client.holdings.keepSession into got := by
  cases into with
  | none =>
    cases got with
    | none => rfl
    | some session => rfl
  | some name =>
    have surplus : client.holdings.sessions.surplus (some name) got = client.sessions.get? name := rfl
    unfold replaceSession keepSession
    rw [surplus]
    dsimp only
    cases client.sessions.get? name with
    | none => rfl
    | some old => rfl

theorem holdings_replaceFile (client : Client engine) (into : Handle) (got : Option engine.File) :
    (client.replaceFile into got).holdings = client.holdings.keepFile into got := by
  unfold replaceFile keepFile
  cases into with
  | none =>
    cases got with
    | none => rfl
    | some file => rfl
  | some name =>
    dsimp only
    cases client.files.get? name with
    | none => rfl
    | some old => rfl

theorem connect_changes {call : Call} {into : Handle} {got : Option engine.Session}
    {caller : Caller engine.World} {errors : List LastError} (asks : call.newSession? = some into)
    (connects : Connects (client.caller thread) (got, caller))
    (records : Caller.Records errors (client.caller thread) caller) :
    Changes thread client.holdings call (.handle got.isSome)
      ((client.resume thread caller).replaceSession into got).holdings := by
  rw [holdings_replaceSession, holdings_resume records]
  cases connects with
  | made made world =>
    rw [world]
    exact .connects asks made.engine made.observer made.bound
  | failed world =>
    rw [world]
    exact .connectsNot asks

theorem disconnect_missing {session : Handle} (missing : client.sessions.find? session = none) :
    client.disconnect thread session = (.code (-1),
      { client.resume thread ((client.caller thread).record (.refused .nullDisconnect)) with
        sessions := client.sessions.update session none }) := by
  unfold disconnect
  rw [missing]
  rfl

theorem disconnect_held {name : String} {old : engine.Session}
    (found : client.sessions.get? name = some old) :
    client.disconnect thread (some name) = (.code 0,
      { client.resume thread { client.caller thread with scene := Session.release old client.scene } with
        sessions := client.sessions.erase name }) := by
  have held : client.sessions.find? (some name) = some old := found
  unfold disconnect
  rw [held]
  rfl

theorem disconnect_changes (client : Client engine) (thread : Nat) (session : Handle) :
    Changes thread client.holdings (.disconnect session) (client.disconnect thread session).1
      (client.disconnect thread session).2.holdings := by
  cases found : client.sessions.find? session with
  | none =>
    have records : Caller.Records _ (client.caller thread)
        ((client.caller thread).record (.refused .nullDisconnect)) := Caller.Records.record _ _
    have same : client.sessions.update session none = client.sessions := by
      rw [← found]
      exact Table.update_find? client.sessions session
    rw [disconnect_missing found, same]
    change Changes thread client.holdings _ (.code (-1)) (client.resume thread _).holdings
    rw [holdings_resume records, Caller.world_record]
    exact .nothing ⟨⟨rfl, .inr (by decide)⟩, rfl, .inl rfl, rfl⟩
  | some old =>
    cases session with
    | none => cases found
    | some name =>
      let caller := { client.caller thread with scene := Session.release old client.scene }
      have records : Caller.Records [] (client.caller thread) caller := Caller.Records.silent rfl
      have kept : client.holdings.keepSession (some name) none =
          { client.holdings with
            world := caller.scene.world
            sessions := client.sessions.erase name } := by
        have surplus : client.holdings.sessions.surplus (some name) none = some old := found
        unfold keepSession
        rw [surplus]
        rfl
      rw [disconnect_held found]
      change Changes thread client.holdings _ _
        { (client.resume thread caller).holdings with sessions := client.sessions.erase name }
      rw [holdings_resume records, ← kept]
      exact .disconnects rfl found

theorem openFile_changes (client : Client engine) (thread : Nat) (session : Handle) (path : Given)
    (into : Handle) :
    Changes thread client.holdings (.openFile session path into)
      (client.openFile thread session path into).1 (client.openFile thread session path into).2.holdings := by
  obtain ⟨got, caller, opened, world, fresh⟩ :=
    openFile_opens (client.caller thread) (client.sessions.find? session) path
  have settles := Caller.openFile_settles engine_silent (client.caller thread)
    (client.sessions.find? session) path
  rw [opened] at settles
  have records := settles.records
  let between : Client engine := { client.resume thread caller with
    sessions := client.sessions.update session (client.sessions.find? session) }
  have resumed : between.holdings = client.holdings := by
    have same : client.sessions.update session (client.sessions.find? session) = client.sessions :=
      Table.update_find? client.sessions session
    change { (client.resume thread caller).holdings with
      sessions := client.sessions.update session (client.sessions.find? session) } = client.holdings
    rw [same, holdings_resume records, world]
    rfl
  have after : client.openFile thread session path into =
      (.handle got.isSome, between.replaceFile into got) := by
    unfold openFile
    rw [opened]
    rfl
  rw [after, holdings_replaceFile, resumed]
  cases got with
  | none => exact .opensNot rfl
  | some file =>
    have opened := fresh file rfl
    exact .opens rfl opened.position opened.observer opened.content

theorem holdings_keepFile (file : Handle) (got : Option engine.File) {caller : Caller engine.World}
    {errors : List LastError} (records : Caller.Records errors (client.caller thread) caller)
    (world : caller.scene.world = client.scene.world) :
    ({ client.resume thread caller with files := client.files.update file got } :
      Client engine).holdings = client.holdings.keepFile file got := by
  change { (client.resume thread caller).holdings with files := client.files.update file got } = _
  rw [holdings_resume records, world]
  rfl

theorem keepFile_same (client : Client engine) (file : Handle) :
    client.holdings.keepFile file (client.files.find? file) = client.holdings := by
  unfold keepFile
  rw [show client.holdings.files.update file (client.files.find? file) = client.holdings.files from
    Table.update_find? client.files file]

section
variable {α β : Type} (client : Client engine) (thread : Nat) (session file : Handle)

theorem useFile_changes {call : Call} (answer : Answer) (asks : call.usedFile? = some file)
    (arguments : Except Fault β)
    (operation : engine.File → β → Scene engine.World → Result α × engine.File × Scene engine.World)
    (works : ∀ held argument scene, File.Works held scene (operation held argument scene)) :
    Changes thread client.holdings call answer (client.useFile thread session file
      fun caller session file => caller.useFile session file arguments operation).2.holdings := by
  have settles := Caller.useFile_settles (client.caller thread) (client.sessions.find? session)
    (client.files.find? file) arguments operation fun held argument scene =>
      (works held argument scene).quiet.reports
  obtain ⟨got, held, caller, used, world, moved⟩ := useFile_uses (client.caller thread)
    (client.sessions.find? session) (client.files.find? file) arguments operation works
  rw [used] at settles
  have changes : Changes thread client.holdings call answer (client.holdings.keepFile file held) := by
    obtain rfl | ⟨before, after, there, rfl, moves⟩ := moved
    · rw [keepFile_same]
      exact .nothing (Call.idle_uses asks answer)
    · exact .uses asks there moves
  rw [← holdings_keepFile file held settles.records world] at changes
  simp only [useFile, used]
  exact changes

theorem closeFile_changes [Formats] :
    Changes thread client.holdings (.closeFile session file)
      (client.call thread (.closeFile session file)).1
      (client.call thread (.closeFile session file)).2.holdings := by
  have settles := Caller.close_settles engine_silent (client.caller thread)
    (client.sessions.find? session) (client.files.find? file)
  obtain ⟨got, held, caller, closed, world, ends⟩ := close_closes (client.caller thread)
    (client.sessions.find? session) (client.files.find? file)
  rw [closed] at settles
  have changes : Changes thread client.holdings (.closeFile session file) (.ofUnit got)
      (client.holdings.keepFile file held) := by
    obtain ⟨rfl, rfl⟩ | ⟨rfl, rfl⟩ := ends
    · rw [keepFile_same]
      exact .nothing ⟨⟨rfl, .inl rfl⟩, rfl, .inr (by decide), rfl⟩
    · exact .closes rfl
  rw [← holdings_keepFile file held settles.records world] at changes
  simp only [Client.call, useFile, closed]
  exact changes

end

theorem resume_changes {call : Call} {answer : Answer} (idle : call.Idle answer)
    {caller : Caller engine.World} {errors : List LastError}
    (records : Caller.Records errors (client.caller thread) caller)
    (world : caller.scene.world = client.scene.world) :
    Changes thread client.holdings call answer (client.resume thread caller).holdings := by
  rw [holdings_resume records, world]
  exact .nothing idle

theorem world_load [Formats] (client : Client engine) (path : Config.SearchPath) :
    (Builder.load client.tree path client.scene).2.world = client.scene.world :=
  (Scene.Quiet.traceAll client.scene _ (Config.isReport_loadDefaults client.tree path)).world

theorem world_finish {World α : Type} (caller : Caller World) (reply : Reply α) :
    (caller.finish reply).2.scene.world = caller.scene.world := by
  cases reply with
  | answered answer => rfl
  | panicked payload => exact Caller.world_record caller _

theorem world_accept {World α : Type} (caller : Caller World) (result : Except Fault α) :
    (caller.accept result).2.scene.world = caller.scene.world := by
  cases result with
  | ok value => rfl
  | error fault => exact Caller.world_record caller _

theorem defaultBuilder_changes [Formats] {call : Call} {answer : Answer} (idle : call.Idle answer)
    (client : Client engine) (thread : Nat) :
    Changes thread client.holdings call answer
      (client.resume thread (client.defaultBuilder (client.caller thread)).2).holdings :=
  resume_changes idle (load_settles client thread _).records
    ((world_finish _ _).trans (world_load client _))

theorem directoryBuilder_changes [Formats] {call : Call} {answer : Answer} (idle : call.Idle answer)
    (client : Client engine) (thread : Nat) (directory : Given) :
    Changes thread client.holdings call answer
      (client.resume thread (client.directoryBuilder (client.caller thread) directory).2).holdings := by
  cases given : requiredText "configDirectory" directory with
  | error fault =>
    simp only [directoryBuilder, given]
    exact resume_changes idle (Caller.Records.record _ _) (Caller.world_record _ _)
  | ok text =>
    simp only [directoryBuilder, given]
    exact resume_changes idle (load_settles client thread _).records
      ((world_finish _ _).trans (world_load client _))

theorem reportFault_changes {α : Type} {call : Call} {answer : Answer} (idle : call.Idle answer)
    (client : Client engine) (thread : Nat) (result : Except Fault α) :
    Changes thread client.holdings call answer
      (client.reportFault thread (client.caller thread) result).holdings :=
  resume_changes idle (Caller.Settles.accept _ result).records (world_accept _ result)

/-- Lookups in a default builder report at most twice. -/
theorem default_changes [Formats] {α : Type} {call : Call} {result : Answer × Client engine}
    (idle : call.Idle result.1) (client : Client engine) (thread : Nat)
    (absent : ∀ caller, client.defaultBuilder (client.caller thread) = (none, caller) →
      result.2 = client.resume thread caller)
    (present : ∀ builder caller, client.defaultBuilder (client.caller thread) = (some builder, caller) →
      ∃ looked : Except Fault α, result.2 = client.reportFault thread caller looked) :
    Changes thread client.holdings call result.1 result.2.holdings := by
  have loaded := (load_settles client thread (.ofVariables client.environment)).records
  have world : (client.defaultBuilder (client.caller thread)).2.scene.world = client.scene.world :=
    (world_finish _ _).trans (world_load client _)
  change Caller.Records _ (client.caller thread) (client.defaultBuilder (client.caller thread)).2 at loaded
  cases got : client.defaultBuilder (client.caller thread) with
  | mk builder caller =>
    rw [got] at loaded world
    cases builder with
    | none =>
      rw [absent caller got]
      exact resume_changes idle loaded world
    | some builder =>
      obtain ⟨looked, same⟩ := present builder caller got
      rw [same]
      exact resume_changes idle (loaded.trans (Caller.Settles.accept _ looked).records)
        ((world_accept _ looked).trans world)

theorem changeBuilder_changes (client : Client engine) (thread : Nat) (builder : Handle) (change : Change) :
    Changes thread client.holdings (.changeBuilder builder change)
      (client.changeBuilder thread builder change).1
      (client.changeBuilder thread builder change).2.holdings := by
  have idle : (Call.changeBuilder builder change).Idle (client.changeBuilder thread builder change).1 :=
    ⟨⟨rfl, .inl rfl⟩, rfl, .inl rfl, rfl⟩
  have reported := reportFault_changes idle client thread (changed (client.builders.find? builder) change)
  have same : (client.changeBuilder thread builder change).2.holdings =
      (client.reportFault thread (client.caller thread)
        (changed (client.builders.find? builder) change)).holdings := by
    unfold changeBuilder reportFault
    cases changed (client.builders.find? builder) change <;> rfl
  rw [same]
  exact reported

theorem waiting_resume (client : Client engine) (thread : Nat) (slots : Slots) :
    (client.resume thread { client.caller thread with slots }).threads =
      Function.update client.threads thread slots := by
  funext other
  simp only [Client.resume, Function.update_apply]

variable [Formats]

theorem observeSessions_changes (client : Client engine) (thread : Nat) (monitor : Option Monitor) :
    Changes thread client.holdings (.observeSessions monitor) (.code 0)
      (client.call thread (.observeSessions monitor)).2.holdings := by
  let slots := { client.threads thread with sessionObserver := monitor.map .handler }
  have sessions : (fun other => (Function.update client.threads thread slots other).sessionObserver) =
      Function.update client.holdings.sessionObserver thread (monitor.map .handler) :=
    Function.comp_update Slots.sessionObserver client.threads thread slots
  have files : (fun other => (Function.update client.threads thread slots other).fileObserver) =
      client.holdings.fileObserver := by
    rw [← Function.update_eq_self thread client.holdings.fileObserver]
    exact Function.comp_update Slots.fileObserver client.threads thread slots
  have after : (client.call thread (.observeSessions monitor)).2.holdings = { client.holdings with
      sessionObserver := Function.update client.holdings.sessionObserver thread (monitor.map .handler) } := by
    rw [← sessions]
    unfold holdings
    dsimp only [Client.call]
    rw [waiting_resume]
    exact congrArg (Holdings.mk _ _ _ _) files
  rw [after]
  exact .awaitsSessions rfl

theorem observeFiles_changes (client : Client engine) (thread : Nat) (monitor : Option Monitor) :
    Changes thread client.holdings (.observeFiles monitor) (.code 0)
      (client.call thread (.observeFiles monitor)).2.holdings := by
  let slots := { client.threads thread with fileObserver := monitor.map .handler }
  have files : (fun other => (Function.update client.threads thread slots other).fileObserver) =
      Function.update client.holdings.fileObserver thread (monitor.map .handler) :=
    Function.comp_update Slots.fileObserver client.threads thread slots
  have sessions : (fun other => (Function.update client.threads thread slots other).sessionObserver) =
      client.holdings.sessionObserver := by
    rw [← Function.update_eq_self thread client.holdings.sessionObserver]
    exact Function.comp_update Slots.sessionObserver client.threads thread slots
  have after : (client.call thread (.observeFiles monitor)).2.holdings = { client.holdings with
      fileObserver := Function.update client.holdings.fileObserver thread (monitor.map .handler) } := by
    rw [← files]
    unfold holdings
    dsimp only [Client.call]
    rw [waiting_resume]
    exact congrArg (Holdings.mk _ _ _ · _) sessions
  rw [after]
  exact .awaitsFiles rfl

/-- All that a call does to what a client holds. -/
theorem call_changes (client : Client engine) (thread : Nat) (call : Call) :
    Changes thread client.holdings call (client.call thread call).1
      (client.call thread call).2.holdings := by
  cases call with
  | connect host port user into =>
    exact connect_changes rfl (connectDirect_connects (client.caller thread) host port user)
      (Caller.connectDirect_settles engine_silent engine_calm (client.caller thread) host port user).records
  | connectBuilder builder into =>
    exact connect_changes rfl (connectBuilder_connects (client.caller thread) (client.builders.find? builder))
      (Caller.connectBuilder_settles engine_silent engine_calm (client.caller thread)
        (client.builders.find? builder)).records
  | disconnect session => exact disconnect_changes client thread session
  | openFile session path into => exact openFile_changes client thread session path into
  | isOpenForRead file => exact .nothing ⟨⟨rfl, .inl rfl⟩, rfl, .inl rfl, rfl⟩
  | closeFile session file => exact closeFile_changes client thread session file
  | read session file length present =>
    exact useFile_changes client thread session file _ rfl (room length present) engine.read
      File.read_works
  | readAt session file position length present =>
    exact useFile_changes client thread session file _ rfl (roomAt position length present)
      Caller.readingAt
      fun file place => File.readAt_works file place.2 place.1
  | seek session file position =>
    exact useFile_changes client thread session file _ rfl (offset "desiredPos" position)
      (fun file start => engine.seek file (.start start)) fun file start => File.seek_works file (.start start)
  | tell session file =>
    exact useFile_changes client thread session file _ rfl (.ok ())
      (fun file () => engine.seek file (.current 0)) fun file _ => File.seek_works file (.current 0)
  | cancel session file =>
    exact useFile_changes client thread session file _ rfl (.ok ()) Caller.canceling
      fun file _ => File.cancel_works file
  | newBuilder into => exact defaultBuilder_changes ⟨⟨rfl, .inl rfl⟩, rfl, .inl rfl, rfl⟩ client thread
  | newBuilderFrom directory into =>
    exact directoryBuilder_changes ⟨⟨rfl, .inl rfl⟩, rfl, .inl rfl, rfl⟩ client thread directory
  | freeBuilder builder => exact .nothing ⟨⟨rfl, .inl rfl⟩, rfl, .inl rfl, rfl⟩
  | changeBuilder builder change => exact changeBuilder_changes client thread builder change
  | lookUpText builder key present => exact reportFault_changes ⟨⟨rfl, .inl rfl⟩, rfl, .inl rfl, rfl⟩ client thread _
  | lookUpInteger builder key present => exact reportFault_changes ⟨⟨rfl, .inl rfl⟩, rfl, .inl rfl, rfl⟩ client thread _
  | lookUpDefaultText key present =>
    refine default_changes ⟨⟨rfl, .inl rfl⟩, rfl, .inl rfl, rfl⟩ client thread (fun caller lost => ?_)
      (fun builder caller loaded => ⟨lookUpText (some builder) key present, ?_⟩)
    · simp only [Client.call, lost]
    · simp only [Client.call, loaded]
  | lookUpDefaultInteger key present =>
    refine default_changes ⟨⟨rfl, .inl rfl⟩, rfl, .inl rfl, rfl⟩ client thread (fun caller lost => ?_)
      (fun builder caller loaded => ⟨lookUpInteger (some builder) key present, ?_⟩)
    · simp only [Client.call, lost]
    · simp only [Client.call, loaded]
  | observeSessions monitor => exact observeSessions_changes client thread monitor
  | observeFiles monitor => exact observeFiles_changes client thread monitor
  | logTo handler => exact .nothing ⟨⟨rfl, .inl rfl⟩, rfl, .inl rfl, rfl⟩
  | filterLog request => exact .nothing ⟨⟨rfl, .inl rfl⟩, rfl, .inl rfl, rfl⟩
  | fetchMessage length present buffer => exact .nothing ⟨⟨rfl, .inl rfl⟩, rfl, .inl rfl, rfl⟩

end Client
end DfsClient
