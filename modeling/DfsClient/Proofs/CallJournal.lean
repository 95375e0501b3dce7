import DfsClient.Proofs.Passages

/-! The journal of a call, up to its return. What a client does with the handle that it gets comes after that.
A call goes as it does over an engine without a journal, and the journal is what passes on the way. -/

namespace DfsClient
open Boundary

variable {engine : Engine}

namespace Boundary.Caller

theorem traceAll_recorded (scene : Scene engine.World) (notes : List Trace) (before : List engine.Exchange) :
    (scene.recorded before).traceAll notes = (scene.traceAll notes).recorded before := by
  induction notes generalizing scene with
  | nil => rfl
  | cons first rest ih => exact ih (scene.trace first)

theorem loading_recorded [Formats] (caller : Caller engine.World) (tree : Config.FileTree) (path : Config.SearchPath)
    (before : List engine.Exchange) :
    (caller.recorded before).loading tree path =
      ((caller.loading tree path).1, (caller.loading tree path).2.recorded before) := by
  have noted := traceAll_recorded caller.scene (Config.loadDefaults tree path).2 before
  have loaded := congrArg (fun scene => (Caller.mk caller.slots scene).finish (Builder.load tree path caller.scene).1)
    noted
  exact loaded.trans (finish_recorded ⟨caller.slots, (Builder.load tree path caller.scene).2⟩ _ before)

theorem accept_recorded {α : Type} (caller : Caller engine.World) (result : Except Fault α)
    (before : List engine.Exchange) :
    (caller.recorded before).accept result =
      ((caller.accept result).1, (caller.accept result).2.recorded before) := by
  cases result with
  | ok value => rfl
  | error fault => exact congrArg (Prod.mk none) (record_recorded caller _ before)

end Boundary.Caller

/-- The calls that make, use or end a session or a file. -/
def Call.asks : Call → Bool
  | .connect .. | .connectBuilder .. | .disconnect _ | .openFile .. | .closeFile .. => true
  | .read .. | .readAt .. | .seek .. | .tell .. | .cancel .. => true
  | _ => false

namespace Client

/-- The client as it meets an engine with a journal. -/
def recorded (client : Client engine) (journal : List engine.Exchange) : Client engine.recorded where
  scene := client.scene.recorded journal
  tree := client.tree
  environment := client.environment
  threads := client.threads
  builders := client.builders
  sessions := client.sessions
  files := client.files

/-- What a call comes to as it returns. No name stands yet for a handle that it answers. -/
def returned [Formats] (client : Client engine) (thread : Nat) (call : Call) : Answer × Client engine :=
  match call with
  | .connect host port user _ =>
    let (session, caller) := (client.caller thread).connectDirect host port user
    (.handle session.isSome, client.resume thread caller)
  | .connectBuilder builder _ =>
    let (session, caller) := (client.caller thread).connectBuilder (client.builders.find? builder)
    (.handle session.isSome, client.resume thread caller)
  | .openFile session path _ =>
    let (file, held, caller) := (client.caller thread).openFile (client.sessions.find? session) path
    (.handle file.isSome,
      { client.resume thread caller with sessions := client.sessions.update session held })
  | call => client.call thread call

/-- A client that was answered a null handle puts it where it wanted the handle. -/
def keepNothing (client : Client engine) : Call → Client engine
  | .connect _ _ _ into | .connectBuilder _ into => client.replaceSession into none
  | .openFile _ _ into => client.replaceFile into none
  | _ => client

/-- All that passes between a call and the engine. -/
def journal [Formats] (client : Client engine) (thread : Nat) (call : Call) : List engine.Exchange :=
  Recorded.journal ((client.recorded []).returned thread call).2.scene.world

variable {client : Client engine} {thread : Nat} {call : Call}

section
variable [Formats]

/-- Over an engine with a journal the call goes alike, and this is added to the journal. -/
def Adds (client : Client engine) (thread : Nat) (call : Call) (journal : List engine.Exchange) : Prop :=
  ∀ before, (client.recorded before).returned thread call =
    ((client.returned thread call).1, (client.returned thread call).2.recorded (before ++ journal))

theorem Adds.journal_eq {journal : List engine.Exchange} (adds : Adds client thread call journal) :
    client.journal thread call = journal :=
  congrArg (fun got : Answer × Client engine.recorded => Recorded.journal got.2.scene.world) (adds [])

theorem Adds.nothing (same : ∀ before, (client.recorded before).returned thread call =
    ((client.returned thread call).1, (client.returned thread call).2.recorded before)) :
    Adds client thread call [] := by
  intro before
  rw [List.append_nil]
  exact same before

/-- Host, port and user for a connect, or why it is refused. Only connects have an errand. -/
def errand? (client : Client engine) : Call → Option (Except Fault Errand)
  | .connect host port user _ => some (Errand.ofArguments host port user)
  | .connectBuilder builder _ => some (Errand.ofBuilder (client.builders.find? builder))
  | _ => none

/-- A connect runs its errand. The client keeps what came of it. -/
theorem connect_returns {wanted : Except Fault Errand} (errand : client.errand? call = some wanted) :
    ∃ into got caller, call.newSession? = some into ∧
      Caller.Acts none (Errand.Passes (client.threads thread).sessionObserver) (client.caller thread) wanted
        (client.journal thread call) got caller ∧
      client.returned thread call = (.handle got.isSome, client.resume thread caller) ∧
      client.call thread call = (.handle got.isSome, (client.resume thread caller).replaceSession into got) ∧
      Adds client thread call (client.journal thread call) := by
  let resumed {engine : Engine} (client : Client engine) (got : Option engine.Session × Caller engine.World) :
      Answer × Client engine := (.handle got.1.isSome, client.resume thread got.2)
  cases call with
  | connect host port user into =>
    cases errand
    obtain ⟨journal, acts, kept⟩ := (client.caller thread).connectDirect_journal host port user
    have adds : Adds client thread (.connect host port user into) journal := fun before =>
      congrArg (resumed (client.recorded before)) (kept before)
    rw [adds.journal_eq]
    exact ⟨into, _, _, rfl, acts, rfl, rfl, adds⟩
  | connectBuilder builder into =>
    cases errand
    obtain ⟨journal, acts, kept⟩ := (client.caller thread).connectBuilder_journal (client.builders.find? builder)
    have adds : Adds client thread (.connectBuilder builder into) journal := fun before =>
      congrArg (resumed (client.recorded before)) (kept before)
    rw [adds.journal_eq]
    exact ⟨into, _, _, rfl, acts, rfl, rfl, adds⟩
  | _ => cases errand

theorem disconnect_returns (client : Client engine) (thread : Nat) (session : Handle) :
    ∃ got caller,
      Caller.Acts none (Released .dropSession) (client.caller thread) (endable (client.sessions.find? session))
        (client.journal thread (.disconnect session)) got caller ∧
      client.returned thread (.disconnect session) =
        (.ofUnit got, { client.resume thread caller with sessions := client.sessions.update session none }) ∧
      Adds client thread (.disconnect session) (client.journal thread (.disconnect session)) := by
  let resumed {engine : Engine} (client : Client engine) (got : Option Unit × Caller engine.World) :
      Answer × Client engine :=
    (.ofUnit got.1, { client.resume thread got.2 with sessions := client.sessions.update session none })
  obtain ⟨journal, acts, kept⟩ := (client.caller thread).disconnect_journal (client.sessions.find? session)
  have adds : Adds client thread (.disconnect session) journal := fun before =>
    congrArg (resumed (client.recorded before)) (kept before)
  rw [adds.journal_eq]
  exact ⟨_, _, acts, rfl, adds⟩

theorem openFile_returns (client : Client engine) (thread : Nat) (session : Handle) (path : Given) (into : Handle) :
    ∃ got caller,
      Caller.Acts (none, client.sessions.find? session) (Opened (client.threads thread).fileObserver)
        (client.caller thread) (openable (client.sessions.find? session) path)
        (client.journal thread (.openFile session path into)) got caller ∧
      client.returned thread (.openFile session path into) = (.handle got.1.isSome,
        { client.resume thread caller with sessions := client.sessions.update session got.2 }) ∧
      Adds client thread (.openFile session path into) (client.journal thread (.openFile session path into)) := by
  let resumed {engine : Engine} (client : Client engine)
      (got : Option engine.File × Option engine.Session × Caller engine.World) : Answer × Client engine :=
    (.handle got.1.isSome,
      { client.resume thread got.2.2 with sessions := client.sessions.update session got.2.1 })
  obtain ⟨journal, acts, kept⟩ := (client.caller thread).openFile_journal (client.sessions.find? session) path
  have adds : Adds client thread (.openFile session path into) journal := fun before =>
    congrArg (resumed (client.recorded before)) (kept before)
  rw [adds.journal_eq]
  exact ⟨_, _, acts, rfl, adds⟩

theorem closeFile_returns (client : Client engine) (thread : Nat) (session file : Handle) :
    ∃ got caller,
      Caller.Acts (none, client.files.find? file) Closed (client.caller thread)
        (checkedFile (client.sessions.find? session) (client.files.find? file))
        (client.journal thread (.closeFile session file)) got caller ∧
      client.returned thread (.closeFile session file) =
        (.ofUnit got.1, { client.resume thread caller with files := client.files.update file got.2 }) ∧
      Adds client thread (.closeFile session file) (client.journal thread (.closeFile session file)) := by
  let resumed {engine : Engine} (client : Client engine) (got : Option Unit × Option engine.File × Caller engine.World) :
      Answer × Client engine :=
    (.ofUnit got.1, { client.resume thread got.2.2 with files := client.files.update file got.2.1 })
  obtain ⟨journal, acts, kept⟩ :=
    (client.caller thread).close_journal (client.sessions.find? session) (client.files.find? file)
  have adds : Adds client thread (.closeFile session file) journal := fun before =>
    congrArg (resumed (client.recorded before)) (kept before)
  rw [adds.journal_eq]
  exact ⟨_, _, acts, rfl, adds⟩

/-- A use of a file leaves the file where it was, as the engine gave it back. -/
def Uses {α β : Type} (client : Client engine) (thread : Nat) (call : Call) (session file : Handle)
    (arguments : Except Fault β) (exchange : engine.File → β → Result α → engine.File → engine.Exchange)
    (present : Option α → Answer) : Prop :=
  ∃ got caller,
    Caller.Acts (none, client.files.find? file) (Used exchange) (client.caller thread)
      (usable (client.sessions.find? session) (client.files.find? file) arguments)
      (client.journal thread call) got caller ∧
    client.returned thread call =
      (present got.1, { client.resume thread caller with files := client.files.update file got.2 }) ∧
    Adds client thread call (client.journal thread call)

theorem useFile_returns {α β : Type} (session file : Handle) (arguments : Except Fault β)
    {exchange : engine.File → β → Result α → engine.File → engine.Exchange}
    {operation : engine.File → β → Scene engine.World → Result α × engine.File × Scene engine.World}
    {operation' : engine.File → β → Scene (Recorded engine) → Result α × engine.File × Scene (Recorded engine)}
    (shows : Shows exchange operation operation') (present : Option α → Answer)
    (called : client.returned thread call =
      let (answer, after) := client.useFile thread session file
        fun caller session file => caller.useFile session file arguments operation
      (present answer, after))
    (called' : ∀ before, (client.recorded before).returned thread call =
      let (answer, after) := (client.recorded before).useFile thread session file
        fun caller session file => @Caller.useFile engine.recorded β α caller session file arguments operation'
      (present answer, after)) : Uses client thread call session file arguments exchange present := by
  let resumed {engine : Engine} (client : Client engine) (got : Option α × Option engine.File × Caller engine.World) :
      Answer × Client engine :=
    (present got.1, { client.resume thread got.2.2 with files := client.files.update file got.2.1 })
  obtain ⟨journal, acts, kept⟩ := (client.caller thread).useFile_journal (client.sessions.find? session)
    (client.files.find? file) arguments shows
  have adds : Adds client thread call journal := by
    intro before
    rw [called, called']
    exact congrArg (resumed (client.recorded before)) (kept before)
  unfold Uses
  rw [adds.journal_eq]
  exact ⟨_, _, acts, called, adds⟩

end

section
variable (client : Client engine) (thread : Nat) (session file : Handle) [Formats]

theorem read_returns (length : Int32) (present : Bool) :
    Uses client thread (.read session file length present) session file (room length present) .read .ofTransfer :=
  useFile_returns session file _ (shows_read engine) .ofTransfer rfl fun _ => rfl

theorem readAt_returns (position : Int64) (length : Int32) (present : Bool) :
    Uses client thread (.readAt session file position length present) session file
      (roomAt position length present) (fun held place => .readAt held place.2 place.1) .ofTransfer :=
  useFile_returns session file _ (shows_readAt engine) .ofTransfer rfl fun _ => rfl

theorem seek_returns (position : Int64) :
    Uses client thread (.seek session file position) session file (offset "desiredPos" position)
      (fun held start => .seek held (.start start)) fun answer => .ofUnit (answer.map fun _ => ()) :=
  useFile_returns session file _ (shows_seek engine .start) _ rfl fun _ => rfl

theorem tell_returns :
    Uses client thread (.tell session file) session file (.ok ()) (fun held () => .seek held (.current 0))
      .ofPosition :=
  useFile_returns session file _ (shows_seek engine fun () => .current 0) .ofPosition rfl fun _ => rfl

theorem cancel_returns :
    Uses client thread (.cancel session file) session file (.ok ())
      (fun held () result => .cancel held (result.map fun _ => ())) .ofUnit :=
  useFile_returns session file _ (shows_cancel engine) .ofUnit rfl fun _ => rfl

end

theorem reportFault_recorded {α : Type} (client : Client engine) (thread : Nat) (caller : Caller engine.World)
    (result : Except Fault α) (before : List engine.Exchange) :
    (client.recorded before).reportFault thread (caller.recorded before) result =
      (client.reportFault thread caller result).recorded before :=
  congrArg (fun got : Option α × Caller engine.recorded.World => (client.recorded before).resume thread got.2)
    (Caller.accept_recorded caller result before)

section
variable [Formats]

theorem directoryBuilder_recorded (client : Client engine) (caller : Caller engine.World) (directory : Given)
    (before : List engine.Exchange) :
    (client.recorded before).directoryBuilder (caller.recorded before) directory =
      ((client.directoryBuilder caller directory).1,
        (client.directoryBuilder caller directory).2.recorded before) := by
  cases given : requiredText "configDirectory" directory with
  | error fault =>
    simp only [directoryBuilder, given]
    exact congrArg (Prod.mk none) (Caller.record_recorded caller _ before)
  | ok text =>
    rw [directoryBuilder_ok _ _ given, directoryBuilder_ok _ _ given]
    exact Caller.loading_recorded caller client.tree (.set {} text) before

/-- What is looked up in a builder that is loaded for the purpose. -/
def lookedUp {α : Type} (client : Client engine) (thread : Nat) (look : Builder → Except Fault α)
    (answer : Except Fault α → Answer) (failed : Answer) (got : Option Builder × Caller engine.World) :
    Answer × Client engine :=
  match got with
  | (none, caller) => (failed, client.resume thread caller)
  | (some builder, caller) => (answer (look builder), client.reportFault thread caller (look builder))

theorem lookedUp_recorded {α : Type} (client : Client engine) (thread : Nat) (look : Builder → Except Fault α)
    (answer : Except Fault α → Answer) (failed : Answer) (path : Config.SearchPath) (before : List engine.Exchange) :
    (client.recorded before).lookedUp thread look answer failed
        (((client.caller thread).recorded before).loading client.tree path) =
      let ended := client.lookedUp thread look answer failed ((client.caller thread).loading client.tree path)
      (ended.1, ended.2.recorded before) := by
  rw [Caller.loading_recorded]
  obtain ⟨loaded, caller⟩ := (client.caller thread).loading client.tree path
  cases loaded with
  | none => rfl
  | some builder => exact congrArg (Prod.mk _) (reportFault_recorded client thread caller (look builder) before)

/-- What a client makes of a change of a builder. If it was refused, the builder stays as it is. -/
def keepChanged (client : Client engine) (builder : Handle) : Option Builder → Client engine
  | some changed => client.keepBuilder builder (some changed)
  | none => client

/-- Nothing passes between an engine and a call that neither makes, uses nor ends a session or a file. -/
theorem adds_nothing (client : Client engine) (thread : Nat) {call : Call} (idle : call.asks = false) :
    Adds client thread call [] := by
  refine .nothing fun before => ?_
  cases call with
  | connect | connectBuilder | disconnect | openFile | closeFile | read | readAt | seek | tell | cancel => cases idle
  | isOpenForRead | freeBuilder | observeSessions | observeFiles | logTo | filterLog | fetchMessage => rfl
  | newBuilder into =>
    have loaded := Caller.loading_recorded (client.caller thread) client.tree (.ofVariables client.environment) before
    exact congrArg (fun got => (Answer.handle got.1.isSome,
      ((client.recorded before).resume thread got.2).keepBuilder into got.1)) loaded
  | newBuilderFrom directory into =>
    have loaded := directoryBuilder_recorded client (client.caller thread) directory before
    exact congrArg (fun got => (Answer.handle got.1.isSome,
      ((client.recorded before).resume thread got.2).keepBuilder into got.1)) loaded
  | changeBuilder builder change =>
    let result := changed (client.builders.find? builder) change
    let keep {engine : Engine} (client : Client engine) (got : Option Builder × Caller engine.World) : Client engine :=
      (client.resume thread got.2).keepChanged builder got.1
    have kept (got : Option Builder × Caller engine.World) :
        keep (client.recorded before) (got.1, got.2.recorded before) = (keep client got).recorded before := by
      obtain ⟨changed, caller⟩ := got
      cases changed <;> rfl
    have accepted := congrArg (keep (client.recorded before))
      (Caller.accept_recorded (client.caller thread) result before)
    exact congrArg (Prod.mk (Answer.ofChange result change)) (accepted.trans (kept _))
  | lookUpText builder key present =>
    exact congrArg (Prod.mk _) (reportFault_recorded client thread (client.caller thread) _ before)
  | lookUpInteger builder key present =>
    exact congrArg (Prod.mk _) (reportFault_recorded client thread (client.caller thread) _ before)
  | lookUpDefaultText key present =>
    exact lookedUp_recorded client thread (fun builder => lookUpText (some builder) key present) .ofText
      (.text (-1) none) (.ofVariables client.environment) before
  | lookUpDefaultInteger key present =>
    exact lookedUp_recorded client thread (fun builder => lookUpInteger (some builder) key present) .ofInteger
      (.integer (-1) none) (.ofVariables client.environment) before

theorem asks_of_mem {client : Client engine} {thread : Nat} {call : Call} {exchange : engine.Exchange}
    (member : exchange ∈ client.journal thread call) : call.asks = true := by
  by_contra quiet
  rw [(adds_nothing client thread (eq_false_of_ne_true quiet)).journal_eq] at member
  cases member

end

theorem sentinel_ne (call : Call) (failure : Failure) : call.sentinel failure ≠ .handle true := by
  cases call with
  | changeBuilder builder change => cases change <;> nofun
  | _ => nofun

/-- Where a call answers no handle, all that is left to the client is to keep none. -/
theorem call_keepNothing [Formats] (client : Client engine) (thread : Nat) (call : Call)
    (null : (client.returned thread call).1 ≠ .handle true) :
    client.call thread call =
      ((client.returned thread call).1, (client.returned thread call).2.keepNothing call) := by
  have absent {α : Type} {got : Option α} (null : Answer.handle got.isSome ≠ .handle true) : got = none := by
    cases got with
    | none => rfl
    | some value => exact absurd rfl null
  cases call with
  | connect host port user into =>
    let got := (client.caller thread).connectDirect host port user
    have none : got.1 = none := absent null
    exact congrArg (fun kept => (Answer.handle got.1.isSome, (client.resume thread got.2).replaceSession into kept)) none
  | connectBuilder builder into =>
    let got := (client.caller thread).connectBuilder (client.builders.find? builder)
    have none : got.1 = none := absent null
    exact congrArg (fun kept => (Answer.handle got.1.isSome, (client.resume thread got.2).replaceSession into kept)) none
  | openFile session path into =>
    let got := (client.caller thread).openFile (client.sessions.find? session) path
    let left := { client.resume thread got.2.2 with sessions := client.sessions.update session got.2.1 }
    have none : got.1 = none := absent null
    exact congrArg (fun kept => (Answer.handle got.1.isSome, left.replaceFile into kept)) none
  | _ => rfl

end Client
end DfsClient
