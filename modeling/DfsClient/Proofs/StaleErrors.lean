import DfsClient.Proofs.CallJournal
import DfsClient.Proofs.Sentinels

/-! What the last error of a thread has no part in. Whatever error was left on a thread, a call does the same
and answers the same, unless it is the one that asks for the error. -/

namespace DfsClient
open Boundary

variable {engine : Engine}

namespace Boundary.Caller

variable {World : Type} {α : Type}

/-- What a thread does without a look at the last error. The error that it leaves may still be the old one. -/
def Oblivious (operation : Caller World → α × Caller World) : Prop :=
  ∀ caller stale, ∃ stale', operation (caller.recalling stale) =
    ((operation caller).1, (operation caller).2.recalling stale')

theorem record_recalling (caller : Caller World) (stale : LastError) (failure : Failure) :
    (caller.recalling stale).record failure = (caller.record failure).recalling (failure.error?.getD stale) := by
  rw [record_eq, record_eq]
  cases failure.error? with
  | none => rfl
  | some error => rfl

theorem oblivious_record (answer : α) (failure : Failure) :
    Oblivious fun caller : Caller World => (answer, caller.record failure) := fun caller stale =>
  ⟨_, congrArg (Prod.mk answer) (record_recalling caller stale failure)⟩

theorem oblivious_accept (result : Except Fault α) : Oblivious fun caller : Caller World => caller.accept result := by
  cases result with
  | ok value => exact fun _ stale => ⟨stale, rfl⟩
  | error fault => exact oblivious_record none (.refused fault)

theorem oblivious_settle (result : Result α) : Oblivious fun caller : Caller World => caller.settle result := by
  match result with
  | .answered (.ok answer) => exact fun _ stale => ⟨stale, rfl⟩
  | .answered (.error status) => exact oblivious_record none (.failed status)
  | .panicked payload => exact oblivious_record none (.panicked payload)

theorem oblivious_finish (reply : Reply α) : Oblivious fun caller : Caller World => caller.finish reply := by
  cases reply with
  | answered answer => exact fun _ stale => ⟨stale, rfl⟩
  | panicked payload => exact oblivious_record none (.panicked payload)

theorem oblivious_loading [Formats] (tree : Config.FileTree) (path : Config.SearchPath) :
    Oblivious fun caller : Caller World => caller.loading tree path := fun caller stale =>
  oblivious_finish (Builder.load tree path caller.scene).1
    { caller with scene := (Builder.load tree path caller.scene).2 } stale

theorem oblivious_releaseSession (session : engine.Session) :
    Oblivious fun caller : Caller engine.World => caller.releaseSession session := fun caller stale =>
  oblivious_finish (engine.dropSession session caller.scene).1
    { caller with scene := (engine.dropSession session caller.scene).2 } stale

theorem abandonSession_recalling (caller : Caller engine.World) (session : engine.Session) (payload : Payload)
    (stale : LastError) : ∃ stale', (caller.recalling stale).abandonSession session payload =
      (caller.abandonSession session payload).recalling stale' :=
  ⟨_, record_recalling { caller with scene := engine.abandonSession session caller.scene } stale (.panicked payload)⟩

theorem oblivious_concluding (got : Result Unit × engine.Session × Scene engine.World) :
    Oblivious fun caller : Caller engine.World => caller.concluding got := by
  intro caller stale
  obtain ⟨result, session, scene⟩ := got
  match result with
  | .answered (.ok ()) => exact ⟨stale, rfl⟩
  | .answered (.error status) =>
    have reported := record_recalling { caller with scene } stale (.failed status)
    obtain ⟨stale', released⟩ := oblivious_releaseSession session ({ caller with scene }.record (.failed status))
      ((Failure.failed status).error?.getD stale)
    refine ⟨stale', ?_⟩
    have drops := congrArg (fun after => (after.releaseSession session).2) reported
    exact congrArg (Prod.mk none) (drops.trans (congrArg Prod.snd released))
  | .panicked payload =>
    obtain ⟨stale', abandoned⟩ := abandonSession_recalling { caller with scene } session payload stale
    exact ⟨stale', congrArg (Prod.mk none) abandoned⟩

theorem oblivious_establish (session : engine.Session) (endpoint : Endpoint) (user : Option String) :
    Oblivious fun caller : Caller engine.World => caller.establish session endpoint user := by
  intro caller stale
  cases got : observeSession session caller.slots.sessionObserver caller.scene with
  | mk reply rest =>
    obtain ⟨held, scene⟩ := rest
    cases reply with
    | panicked payload =>
      obtain ⟨stale', abandoned⟩ := abandonSession_recalling { caller with scene } held payload stale
      refine ⟨stale', ?_⟩
      dsimp only
      rw [establish_panicked caller session endpoint user got,
        establish_panicked (caller.recalling stale) session endpoint user got]
      exact congrArg (Prod.mk none) abandoned
    | answered answer =>
      dsimp only
      rw [establish_eq caller session endpoint user got,
        establish_eq (caller.recalling stale) session endpoint user got]
      exact oblivious_concluding _ caller stale

theorem oblivious_connect (endpoint : Endpoint) (user : Option String) (options : Options) :
    Oblivious fun caller : Caller engine.World => caller.connect endpoint user options := by
  intro caller stale
  unfold connect
  dsimp only [recalling, Slots.withError]
  cases engine.createSession (user.getD "") options caller.scene with
  | mk reply scene =>
    match reply with
    | .panicked payload => exact oblivious_record none (.panicked payload) { caller with scene } stale
    | .answered none => exact oblivious_record none (.refused .noSession) { caller with scene } stale
    | .answered (some session) => exact oblivious_establish session endpoint user { caller with scene } stale

theorem oblivious_connectDirect (host : Given) (port : UInt16) (user : Given) :
    Oblivious fun caller : Caller engine.World => caller.connectDirect host port user := by
  unfold connectDirect
  cases optionalText "nn" host with
  | error fault => exact oblivious_record none (.refused fault)
  | ok host =>
    cases optionalText "user" user with
    | error fault => exact oblivious_record none (.refused fault)
    | ok user => exact oblivious_connect _ user {}

theorem oblivious_connectBuilder [Formats] (builder : Option Builder) :
    Oblivious fun caller : Caller engine.World => caller.connectBuilder builder := by
  intro caller stale
  cases builder with
  | none => exact oblivious_record none (.refused .nullBuilder) caller stale
  | some builder =>
    exact oblivious_connect builder.endpoint builder.user builder.options
      { caller with scene := (caller.scene.optionsOf builder.snapshot).2 } stale

theorem oblivious_disconnect (session : Option engine.Session) :
    Oblivious fun caller : Caller engine.World => caller.disconnect session := by
  cases session with
  | none => exact oblivious_record none (.refused .nullDisconnect)
  | some session => exact oblivious_releaseSession session

theorem oblivious_adoptFile (file : engine.File) :
    Oblivious fun caller : Caller engine.World => caller.adoptFile file := by
  intro caller stale
  unfold adoptFile
  dsimp only [recalling, Slots.withError]
  cases observeFile file caller.slots.fileObserver caller.scene with
  | mk reply rest =>
    obtain ⟨held, scene⟩ := rest
    cases reply with
    | answered answer => exact ⟨stale, rfl⟩
    | panicked payload =>
      exact oblivious_record none (.panicked payload) { caller with scene := engine.abandonFile held scene } stale

/-- Two answers as one. -/
def paired {β : Type} (got : α × β × Caller World) : (α × β) × Caller World := ((got.1, got.2.1), got.2.2)

theorem taking_recalling (slots : Slots) (stale : LastError)
    (got : Result engine.File × engine.Session × Scene engine.World) :
    ∃ stale', paired (taking (slots.withError stale) got) =
      ((paired (taking slots got)).1, (paired (taking slots got)).2.recalling stale') := by
  obtain ⟨result, held, scene⟩ := got
  match result with
  | .answered (.error status) => exact oblivious_record (none, some held) (.failed status) ⟨slots, scene⟩ stale
  | .panicked payload => exact oblivious_record (none, some held) (.panicked payload) ⟨slots, scene⟩ stale
  | .answered (.ok file) =>
    obtain ⟨stale', adopted⟩ := oblivious_adoptFile file ⟨slots, scene⟩ stale
    exact ⟨stale', congrArg (fun got : Option engine.File × Caller engine.World => ((got.1, some held), got.2)) adopted⟩

theorem oblivious_openFile (session : Option engine.Session) (path : Given) :
    Oblivious fun caller : Caller engine.World => paired (caller.openFile session path) := by
  cases session with
  | none => exact oblivious_record (none, none) (.refused .nullSession)
  | some session =>
    cases given : requiredText "path" path with
    | error fault =>
      simp only [openFile, given]
      exact oblivious_record (none, some session) (.refused fault)
    | ok text =>
      simp only [openFile_taking _ session given]
      exact fun caller stale => taking_recalling caller.slots stale _

theorem oblivious_useFile {β : Type} (session : Option engine.Session) (file : Option engine.File)
    (arguments : Except Fault β)
    (operation : engine.File → β → Scene engine.World → Result α × engine.File × Scene engine.World) :
    Oblivious fun caller : Caller engine.World => paired (caller.useFile session file arguments operation) := by
  match session, file, arguments with
  | none, file, _ => exact oblivious_record (none, file) (.refused .nullSession)
  | some session, none, _ => exact oblivious_record (none, none) (.refused .nullFile)
  | some session, some held, .error fault => exact oblivious_record (none, some held) (.refused fault)
  | some session, some held, .ok argument =>
    intro caller stale
    let got := operation held argument caller.scene
    obtain ⟨stale', settled⟩ := oblivious_settle got.1 { caller with scene := got.2.2 } stale
    exact ⟨stale', congrArg (fun ended : Option α × Caller engine.World => ((ended.1, some got.2.1), ended.2)) settled⟩

theorem oblivious_close (session : Option engine.Session) (file : Option engine.File) :
    Oblivious fun caller : Caller engine.World => paired (caller.close session file) := by
  match session, file with
  | none, file => exact oblivious_record (none, file) (.refused .nullSession)
  | some session, none => exact oblivious_record (none, none) (.refused .nullFile)
  | some session, some held =>
    intro caller stale
    let got := engine.dropFile held caller.scene
    obtain ⟨stale', finished⟩ := oblivious_finish got.1 { caller with scene := got.2 } stale
    exact ⟨stale', congrArg (fun ended : Option Unit × Caller engine.World => ((ended.1, none), ended.2)) finished⟩

end Boundary.Caller

/-- Whether a call asks for the last error of its thread. -/
def Call.fetches : Call → Bool
  | .fetchMessage .. => true
  | _ => false

namespace Client

theorem resume_recalling_same (client : Client engine) (owner : Nat) (caller : Caller engine.World)
    (stale stale' : LastError) : (client.recalling owner stale).resume owner (caller.recalling stale') =
      (client.resume owner caller).recalling owner stale' := by
  have threads : ((client.recalling owner stale).resume owner (caller.recalling stale')).threads =
      ((client.resume owner caller).recalling owner stale').threads := by
    funext other
    by_cases itself : other = owner
    · subst itself
      rw [resumed_slots, recalling, resumed_slots, caller_resume_same]
    · simp only [recalling, resume, itself, ↓reduceIte]
  exact congrArg (fun threads => { client with scene := caller.scene, threads }) threads

theorem resume_recalling_other (client : Client engine) {owner thread : Nat} (differ : thread ≠ owner)
    (caller : Caller engine.World) (stale : LastError) :
    (client.recalling owner stale).resume thread caller = (client.resume thread caller).recalling owner stale := by
  have threads : ((client.recalling owner stale).resume thread caller).threads =
      ((client.resume thread caller).recalling owner stale).threads := by
    funext other
    by_cases its : other = thread
    · subst its
      simp only [recalling, resume, differ, ↓reduceIte]
    · by_cases his : other = owner
      · subst his
        simp only [recalling, resume, Client.caller, Caller.recalling, its, ↓reduceIte]
      · simp only [recalling, resume, its, his, ↓reduceIte]
  exact congrArg (fun threads => { client with scene := caller.scene, threads }) threads

/-- What a thread does, and the client that goes on from there. -/
def turn {α : Type} (client : Client engine) (thread : Nat)
    (operation : Caller engine.World → α × Caller engine.World) : α × Client engine :=
  let (got, caller) := operation (client.caller thread)
  (got, client.resume thread caller)

theorem turn_recalling {α : Type} {operation : Caller engine.World → α × Caller engine.World}
    (oblivious : Caller.Oblivious operation) (client : Client engine) (owner thread : Nat) (stale : LastError) :
    ∃ stale', (client.recalling owner stale).turn thread operation =
      ((client.turn thread operation).1, (client.turn thread operation).2.recalling owner stale') := by
  unfold turn
  by_cases own : thread = owner
  · subst own
    obtain ⟨stale', same⟩ := oblivious (client.caller thread) stale
    have reads : (client.recalling thread stale).caller thread = (client.caller thread).recalling stale :=
      caller_resume_same ..
    refine ⟨stale', ?_⟩
    rw [reads, same]
    exact congrArg (Prod.mk _) (resume_recalling_same ..)
  · have reads : (client.recalling owner stale).caller thread = client.caller thread :=
      congrArg (Caller.mk · client.scene) (threads_resume_other client _ own)
    refine ⟨stale, ?_⟩
    rw [reads]
    exact congrArg (Prod.mk _) (resume_recalling_other client own _ stale)

/-- Whichever error is left on its owner, a call goes on alike but for that error. It answers alike, unless it
asks for that error. -/
def Ignores [Formats] (client : Client engine) (owner thread : Nat) (stale : LastError) (call : Call) : Prop :=
  ∃ answer stale', (client.recalling owner stale).call thread call =
      (answer, (client.call thread call).2.recalling owner stale') ∧
    ((call.fetches = true → thread ≠ owner) → answer = (client.call thread call).1)

variable {client : Client engine} {owner thread : Nat} {stale : LastError} {call : Call} [Formats]

theorem Ignores.alike {stale' : LastError} (same : (client.recalling owner stale).call thread call =
    ((client.call thread call).1, (client.call thread call).2.recalling owner stale')) :
    Ignores client owner thread stale call :=
  ⟨_, stale', same, fun _ => rfl⟩

/-- What the client makes of a turn has no look at the error. -/
theorem Ignores.of_turn {α : Type} {operation : Caller engine.World → α × Caller engine.World}
    (oblivious : Caller.Oblivious operation) (present : α × Client engine → Answer × Client engine)
    (called : client.call thread call = present (client.turn thread operation))
    (called' : (client.recalling owner stale).call thread call =
      present ((client.recalling owner stale).turn thread operation))
    (keeps : ∀ got after stale', present (got, recalling after owner stale') =
      ((present (got, after)).1, (present (got, after)).2.recalling owner stale')) :
    Ignores client owner thread stale call := by
  obtain ⟨stale', turned⟩ := turn_recalling oblivious client owner thread stale
  rw [turned, keeps] at called'
  rw [← called] at called'
  exact .alike called'

theorem oblivious_directoryBuilder (client : Client engine) (directory : Given) :
    Caller.Oblivious fun caller => client.directoryBuilder caller directory := by
  cases given : requiredText "configDirectory" directory with
  | error fault =>
    simp only [directoryBuilder, given]
    exact Caller.oblivious_record none (.refused fault)
  | ok text =>
    simp only [directoryBuilder_ok client _ given]
    exact Caller.oblivious_loading client.tree (.set {} text)

/-- A lookup in a builder that is loaded for the purpose, as its thread goes through it. -/
def lookingUp {World α : Type} (tree : Config.FileTree) (path : Config.SearchPath) (look : Builder → Except Fault α)
    (answer : Except Fault α → Answer) (failed : Answer) (caller : Caller World) : Answer × Caller World :=
  match caller.loading tree path with
  | (none, after) => (failed, after)
  | (some builder, after) => (answer (look builder), (after.accept (look builder)).2)

theorem oblivious_lookingUp {World α : Type} (tree : Config.FileTree) (path : Config.SearchPath)
    (look : Builder → Except Fault α) (answer : Except Fault α → Answer) (failed : Answer) :
    Caller.Oblivious fun caller : Caller World => lookingUp tree path look answer failed caller := by
  intro caller stale
  obtain ⟨stale', loaded⟩ := Caller.oblivious_loading tree path caller stale
  dsimp only [lookingUp] at loaded ⊢
  rw [loaded]
  obtain ⟨builder, after⟩ := caller.loading tree path
  cases builder with
  | none => exact ⟨stale', rfl⟩
  | some builder =>
    obtain ⟨last, accepted⟩ := Caller.oblivious_accept (look builder) after stale'
    exact ⟨last, congrArg (fun ended : Option α × Caller World => (answer (look builder), ended.2)) accepted⟩

theorem lookedUp_eq_turn {α : Type} (client : Client engine) (thread : Nat) (path : Config.SearchPath)
    (look : Builder → Except Fault α) (answer : Except Fault α → Answer) (failed : Answer) :
    client.lookedUp thread look answer failed ((client.caller thread).loading client.tree path) =
      client.turn thread (lookingUp client.tree path look answer failed) := by
  unfold lookedUp turn lookingUp
  cases (client.caller thread).loading client.tree path with
  | mk builder after => cases builder <;> rfl

theorem useFile_ignores {α β : Type} (session file : Handle) (arguments : Except Fault β)
    (operation : engine.File → β → Scene engine.World → Result α × engine.File × Scene engine.World)
    (answer : Option α → Answer)
    (called : ∀ client : Client engine, client.call thread call =
      let (found, after) := client.useFile thread session file
        fun caller session file => caller.useFile session file arguments operation
      (answer found, after)) : Ignores client owner thread stale call := by
  refine .of_turn (Caller.oblivious_useFile (client.sessions.find? session) (client.files.find? file) arguments
    operation) (fun got => (answer got.1.1, { got.2 with files := got.2.files.update file got.1.2 })) ?_ ?_
    fun _ _ _ => rfl
  · rw [called]
    rfl
  · rw [called]
    rfl

theorem call_ignores (client : Client engine) (owner thread : Nat) (stale : LastError) (call : Call) :
    Ignores client owner thread stale call := by
  let connected (into : Handle) (got : Option engine.Session × Client engine) : Answer × Client engine :=
    (.handle got.1.isSome, got.2.replaceSession into got.1)
  let loaded (into : Handle) (got : Option Builder × Client engine) : Answer × Client engine :=
    (.handle got.1.isSome, got.2.keepBuilder into got.1)
  cases call with
  | connect host port user into =>
    exact .of_turn (Caller.oblivious_connectDirect host port user) (connected into) rfl rfl fun _ _ _ => rfl
  | connectBuilder builder into =>
    exact .of_turn (Caller.oblivious_connectBuilder (client.builders.find? builder)) (connected into) rfl rfl
      fun _ _ _ => rfl
  | disconnect session =>
    exact .of_turn (Caller.oblivious_disconnect (client.sessions.find? session))
      (fun got => (.ofUnit got.1, { got.2 with sessions := got.2.sessions.update session none })) rfl rfl
      fun _ _ _ => rfl
  | openFile session path into =>
    exact .of_turn (Caller.oblivious_openFile (client.sessions.find? session) path)
      (fun got => (.handle got.1.1.isSome,
        Client.replaceFile { got.2 with sessions := got.2.sessions.update session got.1.2 } into got.1.1)) rfl rfl
      fun _ _ _ => rfl
  | closeFile session file =>
    exact .of_turn (Caller.oblivious_close (client.sessions.find? session) (client.files.find? file))
      (fun got => (.ofUnit got.1.1, { got.2 with files := got.2.files.update file got.1.2 })) rfl rfl
      fun _ _ _ => rfl
  | read session file length present =>
    exact useFile_ignores session file (room length present) engine.read .ofTransfer fun _ => rfl
  | readAt session file position length present =>
    exact useFile_ignores session file (roomAt position length present) Caller.readingAt .ofTransfer fun _ => rfl
  | seek session file position =>
    exact useFile_ignores session file (offset "desiredPos" position)
      (fun file start => engine.seek file (.start start)) (fun answer => .ofUnit (answer.map fun _ => ())) fun _ => rfl
  | tell session file =>
    exact useFile_ignores session file (.ok ()) (fun file () => engine.seek file (.current 0)) .ofPosition fun _ => rfl
  | cancel session file =>
    exact useFile_ignores session file (.ok ()) Caller.canceling .ofUnit fun _ => rfl
  | newBuilder into =>
    exact .of_turn (Caller.oblivious_loading client.tree (.ofVariables client.environment)) (loaded into) rfl rfl
      fun _ _ _ => rfl
  | newBuilderFrom directory into =>
    exact .of_turn (oblivious_directoryBuilder client directory) (loaded into) rfl rfl fun _ _ _ => rfl
  | changeBuilder builder change =>
    let result := changed (client.builders.find? builder) change
    refine .of_turn (Caller.oblivious_accept result)
      (fun got => (.ofChange result change, got.2.keepChanged builder got.1)) rfl rfl fun got after stale' => ?_
    cases got <;> rfl
  | lookUpText builder key present =>
    let result := lookUpText (client.builders.find? builder) key present
    exact .of_turn (Caller.oblivious_accept result) (fun got => (.ofText result, got.2)) rfl rfl fun _ _ _ => rfl
  | lookUpInteger builder key present =>
    let result := lookUpInteger (client.builders.find? builder) key present
    exact .of_turn (Caller.oblivious_accept result) (fun got => (.ofInteger result, got.2)) rfl rfl fun _ _ _ => rfl
  | lookUpDefaultText key present =>
    let look (builder : Builder) := lookUpText (some builder) key present
    exact .of_turn (oblivious_lookingUp client.tree (.ofVariables client.environment) look .ofText (.text (-1) none))
      id (lookedUp_eq_turn client thread _ look _ _) (lookedUp_eq_turn (client.recalling owner stale) thread _ look _ _)
      fun _ _ _ => rfl
  | lookUpDefaultInteger key present =>
    let look (builder : Builder) := lookUpInteger (some builder) key present
    exact .of_turn (oblivious_lookingUp client.tree (.ofVariables client.environment) look .ofInteger
      (.integer (-1) none)) id (lookedUp_eq_turn client thread _ look _ _)
      (lookedUp_eq_turn (client.recalling owner stale) thread _ look _ _) fun _ _ _ => rfl
  | observeSessions monitor =>
    have keeps : Caller.Oblivious fun caller : Caller engine.World =>
        ((), { caller with slots := { caller.slots with sessionObserver := monitor.map .handler } }) :=
      fun _ stale => ⟨stale, rfl⟩
    exact .of_turn keeps (fun got => (.code 0, got.2)) rfl rfl fun _ _ _ => rfl
  | observeFiles monitor =>
    have keeps : Caller.Oblivious fun caller : Caller engine.World =>
        ((), { caller with slots := { caller.slots with fileObserver := monitor.map .handler } }) :=
      fun _ stale => ⟨stale, rfl⟩
    exact .of_turn keeps (fun got => (.code 0, got.2)) rfl rfl fun _ _ _ => rfl
  | isOpenForRead | freeBuilder | logTo | filterLog => exact .alike rfl
  | fetchMessage length present buffer =>
    refine ⟨_, stale, rfl, fun other => ?_⟩
    have own : (client.recalling owner stale).threads thread = client.threads thread :=
      threads_resume_other client _ (other rfl)
    exact congrArg (fun slots : Slots => Answer.buffer (fetchMessage (Text.encode slots.message) length present buffer))
      own

/-- A turn in which a thread asks for its last error. -/
def FetchesOf (owner : Nat) (turn : Nat × Call) : Prop := turn.2.fetches = true ∧ turn.1 = owner

/-- Whichever error is left on its owner, all later calls go on alike but for that error, and only the owner is
answered otherwise, where it asks for the error. -/
theorem run_recalling (client : Client engine) (owner : Nat) (stale : LastError) (later : List (Nat × Call)) :
    (∃ stale', ((client.recalling owner stale).run later).2 = (client.run later).2.recalling owner stale') ∧
      ∀ (i : Nat) turn, later[i]? = some turn → ¬ FetchesOf owner turn →
        ((client.recalling owner stale).run later).1[i]? = (client.run later).1[i]? := by
  induction later generalizing client stale with
  | nil => exact ⟨⟨stale, rfl⟩, fun _ _ _ _ => rfl⟩
  | cons next rest ih =>
    obtain ⟨thread, call⟩ := next
    obtain ⟨answer, stale', same, answers⟩ := call_ignores client owner thread stale call
    obtain ⟨⟨last, ends⟩, agree⟩ := ih (client.call thread call).2 stale'
    have goes : (client.recalling owner stale).run ((thread, call) :: rest) =
        (answer :: ((Client.recalling (client.call thread call).2 owner stale').run rest).1,
          ((Client.recalling (client.call thread call).2 owner stale').run rest).2) := by
      simp only [run, same]
    rw [goes]
    refine ⟨⟨last, ends⟩, fun i turn at_i other => ?_⟩
    cases i with
    | zero =>
      cases at_i
      exact congrArg some (answers fun fetches own => other ⟨fetches, own⟩)
    | succ i => exact agree i turn at_i other

end Client
end DfsClient
