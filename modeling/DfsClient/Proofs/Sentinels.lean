import DfsClient.Engine.Scripted
import DfsClient.Formats.Standard
import DfsClient.Proofs.ErrorSlots
import DfsClient.Proofs.FileMethods

/-! What a null handle or a -1 says about the last error, whatever engine answers. Callers
learn of a failure by these alone, and then read the last error of their thread. They read
an error of the call itself, unless the engine gives an ok status as a failure or a number
that does not fit: neither is reported, and the error they read is an older one. -/

namespace DfsClient
open Boundary

/-- Calls that tell of a failure by a null handle or by -1, and by nothing else. -/
def Call.signals : Call → Bool
  | .connect .. | .connectBuilder .. | .openFile .. | .read .. | .readAt .. | .seek .. | .tell .. => true
  | _ => false

/-- Calls that answer a number of the engine. -/
def Call.counts : Call → Bool
  | .read .. | .readAt .. | .tell .. => true
  | _ => false

/-- The first number that is too large for what a call answers. -/
def Call.bound : Call → Nat
  | .tell .. => 9223372036854775808
  | _ => 2147483648

/-- The number answered is the one that the engine gave just where that fits. Without one, a
call that answers a number fails. -/
def Call.Counted (call : Call) (answer : Answer) : Option Nat → Prop
  | some n => answer.number = n ↔ n < call.bound
  | none => call.counts = true → call.failing answer = true

theorem count_exact (count : Nat) : (Int32.ofNat count).toInt = count ↔ count < 2147483648 := by
  refine ⟨fun same => ?_, Int32.toInt_ofNat_of_lt⟩
  have range := (Int32.ofNat count).toInt_lt
  omega

theorem place_exact (place : Nat) : (Int64.ofNat place).toInt = place ↔ place < 9223372036854775808 := by
  refine ⟨fun same => ?_, Int64.toInt_ofNat_of_lt⟩
  have range := (Int64.ofNat place).toInt_lt
  omega

/-- An engine that does not panic when it releases a session. -/
def Engine.Calm (engine : Engine) : Prop :=
  ∀ session scene, (engine.dropSession session scene).1 = .answered ()

namespace Boundary

/-- Only a status that is ok leaves no error behind. -/
theorem Failure.ok_of_error? {failure : Failure} (silent : failure.error? = none) :
    ∃ status, failure = .failed status ∧ status.isOk = true := by
  cases failure with
  | refused fault => cases silent
  | panicked payload => cases silent
  | failed status =>
    refine ⟨status, rfl, ?_⟩
    cases ok : status.isOk with
    | true => rfl
    | false =>
      rw [Failure.error?_failed ok] at silent
      cases silent

def errorOf {α : Type} : Except Failure α → Option LastError
  | .ok _ => none
  | .error failure => failure.error?

namespace Caller

variable {World α β : Type} {engine : Engine}

/-- The same thread, with another error left from before. -/
def recalling (caller : Caller World) (stale : LastError) : Caller World :=
  { caller with slots := caller.slots.withError stale }

/-- A thread that had an error before comes to an outcome, and a fresh error takes the place
of the stale one if there is any. -/
structure Ends (stale : LastError) (outcome : Except Failure α) (fresh : Option LastError)
    (got : Option α × Caller World) : Prop where
  answer : got.1 = outcome.toOption
  error : got.2.slots.lastError = fresh.getD stale

theorem Ends.refused (caller : Caller World) (failure : Failure) (stale : LastError) :
    Ends stale (.error failure : Except Failure α) failure.error?
      (none, (caller.recalling stale).record failure) :=
  ⟨rfl, lastError_record _ failure⟩

theorem Ends.settle (caller : Caller World) (result : Result α) (stale : LastError) :
    Ends stale (resulting result) (errorOf (resulting result)) ((caller.recalling stale).settle result) := by
  match result with
  | .answered (.ok answer) => exact ⟨rfl, rfl⟩
  | .answered (.error status) => exact Ends.refused caller _ stale
  | .panicked payload => exact Ends.refused caller _ stale

/-- The error left behind is that of the outcome. Only after a failure may a release that
panics put another one in its place. -/
inductive Fresh (engine : Engine) : Except Failure α → Option LastError → Prop
  | own (outcome : Except Failure α) : Fresh engine outcome (errorOf outcome)
  | released {failure : Failure} {error : LastError} (panics : ¬ engine.Calm) :
      Fresh engine (.error failure) (some error)

/-- A failure leaves an error, unless it is a status that is ok. -/
theorem Fresh.isSome {failure : Failure} {fresh : Option LastError}
    (left : Fresh engine (.error failure : Except Failure α) fresh)
    (bad : ∀ status, failure = .failed status → status.isOk ≠ true) : ∃ error, fresh = some error := by
  cases left with
  | released panics => exact ⟨_, rfl⟩
  | own =>
    cases found : failure.error? with
    | some error => exact ⟨error, found⟩
    | none =>
      obtain ⟨status, same, ok⟩ := Failure.ok_of_error? found
      exact absurd ok (bad status same)

theorem Fresh.eq_none {status : Status} {fresh : Option LastError}
    (left : Fresh engine (.error (.failed status) : Except Failure α) fresh) (calm : engine.Calm)
    (ok : status.isOk = true) : fresh = none := by
  cases left with
  | released panics => exact absurd calm panics
  | own => exact Failure.error?_ok ok

/-- The fresh error does not depend on the stale one. -/
def Concludes (caller : Caller engine.World) (outcome : Except Failure α)
    (does : Caller engine.World → Option α × Caller engine.World) : Prop :=
  ∃ fresh, Fresh engine outcome fresh ∧ ∀ stale, Ends stale outcome fresh (does (caller.recalling stale))

theorem Concludes.refused (caller : Caller engine.World) (failure : Failure) :
    Concludes caller (.error failure : Except Failure α) fun caller => (none, caller.record failure) :=
  ⟨_, .own _, Ends.refused caller failure⟩

theorem useFile_concludes (caller : Caller engine.World) (session : Option engine.Session)
    (file : Option engine.File) (arguments : Except Fault β)
    (operation : engine.File → β → Scene engine.World → Result α × engine.File × Scene engine.World) :
    Concludes caller (useOutcome caller.scene session file arguments operation) fun caller =>
      let (answer, _, caller) := caller.useFile session file arguments operation
      (answer, caller) := by
  refine ⟨_, .own _, fun stale => ?_⟩
  unfold useFile useOutcome
  cases checkedFile session file with
  | error fault => exact Ends.refused caller _ stale
  | ok held =>
    cases arguments with
    | error fault => exact Ends.refused caller _ stale
    | ok argument =>
      let got := operation held argument caller.scene
      exact Ends.settle { caller with scene := got.2.2 } got.1 stale

theorem openFile_concludes (caller : Caller engine.World) (session : Option engine.Session)
    (path : Given) :
    Concludes caller (caller.openOutcome session path) fun caller =>
      let (answer, _, caller) := caller.openFile session path
      (answer, caller) := by
  refine ⟨_, .own _, fun stale => ?_⟩
  unfold openFile openOutcome
  cases session with
  | none => exact Ends.refused caller _ stale
  | some session =>
    cases requiredText "path" path with
    | error fault => exact Ends.refused caller _ stale
    | ok path =>
      cases got : engine.openFile session path caller.scene with
      | mk result rest =>
        obtain ⟨held, scene⟩ := rest
        simp only [recalling, got]
        match result with
        | .answered (.error status) => exact Ends.refused { caller with scene } _ stale
        | .panicked payload => exact Ends.refused { caller with scene } _ stale
        | .answered (.ok file) =>
          simp only [Caller.settle, adoptFile, resulting, Except.bind, adoptOutcome, Slots.withError]
          cases adopted : observeFile file caller.slots.fileObserver scene with
          | mk reply rest =>
            obtain ⟨file, last⟩ := rest
            cases reply with
            | answered answer => exact ⟨rfl, rfl⟩
            | panicked payload =>
              exact Ends.refused { caller with scene := engine.abandonFile file last } _ stale

theorem lastError_releaseSession (caller : Caller engine.World) (session : engine.Session) :
    (caller.releaseSession session).2.slots.lastError =
      (errorOf (finished (engine.dropSession session caller.scene).1)).getD caller.slots.lastError := by
  unfold releaseSession
  cases engine.dropSession session caller.scene with
  | mk reply scene =>
    cases reply with
    | answered answer => rfl
    | panicked payload => exact lastError_record _ _

theorem scene_reportStatus (caller : Caller World) (stale : LastError) (status : Status) :
    ((caller.recalling stale).reportStatus status).scene = (caller.reportStatus status).scene := by
  unfold reportStatus
  split <;> rfl

/-- A failure is reported before the session is released. A release that panics is reported
after that. -/
theorem discard_concludes (caller : Caller engine.World) (session : engine.Session) (status : Status) :
    Concludes caller (.error (.failed status) : Except Failure engine.Session) fun caller =>
      (none, ((caller.reportStatus status).releaseSession session).2) := by
  have error (stale : LastError) :
      (((caller.recalling stale).reportStatus status).releaseSession session).2.slots.lastError =
        (errorOf (finished (engine.dropSession session (caller.reportStatus status).scene).1)).getD
          ((Failure.failed status).error?.getD stale) := by
    have reported : ((caller.recalling stale).reportStatus status).slots.lastError =
        (Failure.failed status).error?.getD stale := lastError_record _ (.failed status)
    rw [lastError_releaseSession, scene_reportStatus, reported]
  cases released : (engine.dropSession session (caller.reportStatus status).scene).1 with
  | answered answer =>
    refine ⟨_, .own _, fun stale => ⟨rfl, ?_⟩⟩
    rw [error, released]
    rfl
  | panicked payload =>
    have panics : ¬ engine.Calm := by
      intro calm
      cases (calm session _).symm.trans released
    refine ⟨some payload.error, .released panics, fun stale => ⟨rfl, ?_⟩⟩
    rw [error, released]
    rfl

theorem establish_concludes (caller : Caller engine.World) (session : engine.Session)
    (endpoint : Endpoint) (user : Option String) :
    Concludes caller (caller.establishOutcome session endpoint user)
      (·.establish session endpoint user) := by
  unfold Concludes establish establishOutcome
  simp only [recalling, Slots.withError]
  cases observed : observeSession session caller.slots.sessionObserver caller.scene with
  | mk reply rest =>
    obtain ⟨session, scene⟩ := rest
    cases reply with
    | panicked payload =>
      exact ⟨_, .own _, Ends.refused { caller with scene := engine.abandonSession session scene } _⟩
    | answered answer =>
      cases got : reach session endpoint (scene.trace (connectingNote endpoint user)) with
      | mk result rest =>
        obtain ⟨session, last⟩ := rest
        simp only [got]
        cases result with
        | panicked payload =>
          exact ⟨_, .own _, Ends.refused { caller with scene := engine.abandonSession session last } _⟩
        | answered outcome =>
          cases outcome with
          | ok done => exact ⟨_, .own _, fun stale => ⟨rfl, rfl⟩⟩
          | error status => exact discard_concludes { caller with scene := last } session status

theorem connect_concludes (caller : Caller engine.World) (endpoint : Endpoint) (user : Option String)
    (options : Options) :
    Concludes caller (caller.connectOutcome endpoint user options) (·.connect endpoint user options) := by
  unfold connect connectOutcome
  cases made : engine.createSession (user.getD "") options caller.scene with
  | mk reply scene =>
    unfold Concludes
    simp only [recalling, made]
    match reply with
    | .panicked payload => exact Concludes.refused { caller with scene } _
    | .answered none => exact Concludes.refused { caller with scene } _
    | .answered (some session) => exact establish_concludes { caller with scene } session endpoint user

theorem connectDirect_concludes (caller : Caller engine.World) (host : Given) (port : UInt16)
    (user : Given) :
    Concludes caller (caller.directOutcome host port user) (·.connectDirect host port user) := by
  unfold connectDirect directOutcome
  cases optionalText "nn" host with
  | error fault => exact Concludes.refused caller _
  | ok host =>
    cases optionalText "user" user with
    | error fault => exact Concludes.refused caller _
    | ok user => exact connect_concludes caller _ user {}

theorem connectBuilder_concludes [Formats] (caller : Caller engine.World) (builder : Option Builder) :
    Concludes caller (caller.builderOutcome builder) (·.connectBuilder builder) := by
  cases builder with
  | none => exact Concludes.refused caller _
  | some builder =>
    let resolved := caller.scene.optionsOf builder.snapshot
    exact connect_concludes { caller with scene := resolved.2 } builder.endpoint builder.user resolved.1

end Caller
end Boundary

namespace Client

variable {engine : Engine}

/-- The same client, with another error left on a thread from before. -/
def recalling (client : Client engine) (thread : Nat) (stale : LastError) : Client engine :=
  client.resume thread ((client.caller thread).recalling stale)

section
variable [Formats]

/-- The last error of the thread after a call, had the given one been there before. -/
def errorAfter (client : Client engine) (thread : Nat) (call : Call) (stale : LastError) : LastError :=
  (((client.recalling thread stale).call thread call).2.threads thread).lastError

/-- The error that a thread has after the call is one of the call: it does not depend on what
was there before. -/
def RecordsError (client : Client engine) (thread : Nat) (call : Call) : Prop :=
  ∃ error, ∀ stale, client.errorAfter thread call stale = error

/-- The error that a thread has after the call is the one that it had before. -/
def KeepsError (client : Client engine) (thread : Nat) (call : Call) : Prop :=
  ∀ stale, client.errorAfter thread call stale = stale

/-- The engine fails with a status that is ok, or answers a number that reads as -1. -/
def Ambiguous (client : Client engine) (thread : Nat) (call : Call) : Prop :=
  (∃ status, client.outcome thread call = .error (.failed status) ∧ status.isOk = true) ∨
    ∃ answer, client.outcome thread call = .ok answer ∧ call.failing answer = true

/-- The number that the engine answers to a call. -/
def numberAnswered? (client : Client engine) : Call → Option Nat
  | .read session file length present =>
    (Caller.useOutcome client.scene (client.sessions.find? session) (client.files.find? file)
      (room length present) engine.read).toOption.map Transfer.count
  | .readAt session file position length present =>
    (Caller.useOutcome client.scene (client.sessions.find? session) (client.files.find? file)
      (roomAt position length present) Caller.readingAt).toOption.map Transfer.count
  | .tell session file =>
    (Caller.useOutcome client.scene (client.sessions.find? session) (client.files.find? file)
      (.ok ()) fun file () => engine.seek file (.current 0)).toOption
  | _ => none

/-- What a call answers, and the fresh error that it leaves if there is any. -/
def Concludes (client : Client engine) (thread : Nat) (call : Call) : Prop :=
  ∃ fresh, Caller.Fresh engine (client.outcome thread call) fresh ∧ ∀ stale,
    ((client.recalling thread stale).call thread call).1 =
        (match client.outcome thread call with
        | .ok answer => answer
        | .error failure => call.sentinel failure) ∧
      client.errorAfter thread call stale = fresh.getD stale

end

variable {client : Client engine} {thread : Nat} {call : Call}

theorem fresh_map {α : Type} {found : Except Failure α} {fresh : Option LastError}
    (left : Caller.Fresh engine found fresh) (value : α → Answer) :
    Caller.Fresh engine (found.map value) fresh := by
  cases left with
  | own =>
    cases found with
    | ok answer => exact .own (.ok (value answer))
    | error failure => exact .own (.error failure)
  | released panics => exact .released panics

/-- A call concludes as its thread does, once what the thread gets is presented. -/
theorem concludes_of_caller [Formats] {α : Type} {found : Except Failure α} {value : α → Answer}
    {does : Caller engine.World → Option α × Caller engine.World}
    (concludes : Caller.Concludes (client.caller thread) found does) (present : Option α → Answer)
    (outcome : client.outcome thread call = found.map value)
    (some : ∀ x, present (some x) = value x) (none : ∀ failure, present none = call.sentinel failure)
    (answer : ∀ stale, ((client.recalling thread stale).call thread call).1 =
      present (does ((client.recalling thread stale).caller thread)).1)
    (slots : ∀ stale, ((client.recalling thread stale).call thread call).2.threads thread =
      (does ((client.recalling thread stale).caller thread)).2.slots) :
    Concludes client thread call := by
  obtain ⟨fresh, left, ends⟩ := concludes
  refine ⟨fresh, ?_, fun stale => ⟨?_, ?_⟩⟩
  · rw [outcome]
    exact fresh_map left value
  · rw [answer, recalling, caller_resume_same, (ends stale).answer, outcome]
    cases found with
    | ok x => exact some x
    | error failure => exact none failure
  · rw [errorAfter, slots, recalling, caller_resume_same]
    exact (ends stale).error

theorem resumed_slots (client : Client engine) (thread : Nat) (caller : Caller engine.World) :
    (client.resume thread caller).threads thread = caller.slots :=
  congrArg Caller.slots (caller_resume_same client thread caller)

theorem useFile_concludes [Formats] {α β : Type} (client : Client engine) (thread : Nat) (call : Call)
    (session file : Handle) (arguments : Except Fault β)
    (operation : engine.File → β → Scene engine.World →
      Result α × engine.File × Scene engine.World)
    (present : Option α → Answer) (value : α → Answer)
    (outcome : client.outcome thread call = (Caller.useOutcome client.scene
      (client.sessions.find? session) (client.files.find? file) arguments operation).map value)
    (some : ∀ x, present (some x) = value x) (none : ∀ failure, present none = call.sentinel failure)
    (called : ∀ client : Client engine, client.call thread call =
      let (answer, after) := client.useFile thread session file
        fun caller session file => caller.useFile session file arguments operation
      (present answer, after)) :
    Concludes client thread call := by
  have concludes := Caller.useFile_concludes (client.caller thread) (client.sessions.find? session)
    (client.files.find? file) arguments operation
  refine concludes_of_caller concludes present outcome some none (fun stale => ?_) (fun stale => ?_)
  · rw [called]
    rfl
  · rw [called]
    exact resumed_slots ..

theorem call_concludes [Formats] (signals : call.signals = true) : Concludes client thread call := by
  cases call with
  | connect host port user into =>
    exact concludes_of_caller (Caller.connectDirect_concludes (client.caller thread) host port user)
      Answer.ofHandle rfl (fun _ => rfl) (fun _ => rfl) (fun _ => rfl) fun _ => resumed_slots ..
  | connectBuilder builder into =>
    exact concludes_of_caller
      (Caller.connectBuilder_concludes (client.caller thread) (client.builders.find? builder))
      Answer.ofHandle rfl (fun _ => rfl) (fun _ => rfl) (fun _ => rfl) fun _ => resumed_slots ..
  | openFile session path into =>
    exact concludes_of_caller
      (Caller.openFile_concludes (client.caller thread) (client.sessions.find? session) path)
      Answer.ofHandle rfl (fun _ => rfl) (fun _ => rfl) (fun _ => rfl) fun _ => resumed_slots ..
  | read session file length present =>
    exact useFile_concludes client thread _ session file (room length present) engine.read
      .ofTransfer _ rfl (fun _ => rfl) (fun _ => rfl) fun _ => rfl
  | readAt session file position length present =>
    exact useFile_concludes client thread _ session file (roomAt position length present)
      Caller.readingAt .ofTransfer _ rfl (fun _ => rfl) (fun _ => rfl) fun _ => rfl
  | seek session file position =>
    exact useFile_concludes client thread _ session file (offset "desiredPos" position)
      (fun file start => engine.seek file (.start start))
      (fun answer => .ofUnit (answer.map fun _ => ())) _ rfl (fun _ => rfl) (fun _ => rfl) fun _ => rfl
  | tell session file =>
    exact useFile_concludes client thread _ session file (.ok ())
      (fun file () => engine.seek file (.current 0)) .ofPosition _ rfl (fun _ => rfl) (fun _ => rfl)
      fun _ => rfl
  | _ => cases signals

theorem recalling_own (client : Client engine) (thread : Nat) :
    client.recalling thread (client.threads thread).lastError = client := by
  have threads : (client.recalling thread (client.threads thread).lastError).threads = client.threads := by
    funext other
    by_cases same : other = thread
    · subst same
      exact resumed_slots ..
    · exact threads_resume_other _ _ same
  exact congrArg (fun threads => { client with threads }) threads

theorem failing_of_signals {call : Call} (signals : call.signals = true) (failure : Failure) :
    call.failing (call.sentinel failure) = true := by
  cases call with
  | connect | connectBuilder | openFile | read | readAt | seek | tell => rfl
  | _ => cases signals

theorem number_of_found {α : Type} {found : Except Failure α} {value : α → Answer} {count : α → Nat}
    {number : Option Nat} {answer : Answer} (signals : call.signals = true)
    (answered : answer = match found.map value with
      | .ok answer => answer
      | .error failure => call.sentinel failure)
    (counted : number = found.toOption.map count)
    (exact : ∀ x, (value x).number = count x ↔ count x < call.bound) :
    call.Counted answer number := by
  subst counted answered
  cases found with
  | ok x => exact exact x
  | error failure => exact fun _ => failing_of_signals signals failure

theorem number_answered [Formats] {answer : Answer} (signals : call.signals = true)
    (answered : answer = match client.outcome thread call with
      | .ok answer => answer
      | .error failure => call.sentinel failure) :
    call.Counted answer (client.numberAnswered? call) := by
  cases call with
  | read | readAt =>
    exact number_of_found signals answered rfl fun transfer => count_exact transfer.count
  | tell => exact number_of_found signals answered (Option.map_id' ..).symm place_exact
  | _ => nofun

/-- Whatever an engine answers: callers see a failure exactly when the call records an error,
and a number exactly as the engine gave it if it fits. Only where the engine's answer is
ambiguous do they see a failure with an older error beside it. -/
theorem sentinel_marks_recorded_error [Formats] (client : Client engine) (thread : Nat) (call : Call)
    (signals : call.signals = true) :
    let answer := (client.call thread call).1
    (¬ client.Ambiguous thread call →
        if call.failing answer then client.RecordsError thread call
        else client.KeepsError thread call) ∧
      (client.Ambiguous thread call →
        call.failing answer = true ∧ (engine.Calm → client.KeepsError thread call)) ∧
      call.Counted answer (client.numberAnswered? call) := by
  intro answer
  obtain ⟨fresh, left, ends⟩ := @call_concludes _ client thread _ _ signals
  have answered := (ends (client.threads thread).lastError).1
  rw [recalling_own] at answered
  change answer = _ at answered
  have errors (stale : LastError) := (ends stale).2
  refine ⟨fun clear => ?_, fun ambiguous => ?_, number_answered signals answered⟩
  · cases found : client.outcome thread call with
    | ok expected =>
      rw [found] at answered left
      have plain : call.failing answer = false := by
        rw [answered]
        exact Bool.eq_false_iff.mpr fun failing => clear (.inr ⟨expected, found, failing⟩)
      rw [plain]
      cases left with
      | own => exact errors
    | error failure =>
      rw [found] at answered left
      have failing : call.failing answer = true := by
        rw [answered]
        exact failing_of_signals signals failure
      rw [failing]
      obtain ⟨error, rfl⟩ := left.isSome fun status same ok => clear (.inl ⟨status, same ▸ found, ok⟩)
      exact ⟨error, errors⟩
  · obtain ⟨status, found, ok⟩ | ⟨expected, found, failing⟩ := ambiguous
    · rw [found] at answered left
      refine ⟨?_, fun calm => ?_⟩
      · rw [answered]
        exact failing_of_signals signals _
      · have none : fresh = none := left.eq_none calm ok
        subst none
        exact errors
    · rw [found] at answered left
      cases left with
      | own => exact ⟨by rw [answered]; exact failing, fun _ => errors⟩

/-- A client that holds a session and a file of an engine with a script. -/
def scripted (outcomes : Method → Scripted.Outcome) : Client Scripted.engine where
  scene := ⟨{}, { outcomes }⟩
  tree := ⟨fun _ => .missing⟩
  sessions := ⟨[("s", {})]⟩
  files := ⟨[("f", ())]⟩

def guarded : Client Scripted.engine :=
  scripted fun
    | .openFile => .fail (.permissionDenied "")
    | .read => .succeed 12
    | _ => .succeed 0

open scoped Formats.Standard

theorem denied_open_is_recorded :
    let opening := Call.openFile (some "s") (some [47, 97]) (some "g")
    let reading := Call.read (some "s") (some "f") 64 true
    (opening.signals = true ∧ guarded.RecordsError 0 opening) ∧
      reading.signals = true ∧ guarded.KeepsError 0 reading ∧
        (guarded.call 0 reading).1.number = 12 := by
  intro opening reading
  have path : requiredText "path" (some [47, 97]) = .ok "/a" :=
    requiredText_of_textOf? (textOf?_of_encode rfl) _
  have there : guarded.sessions.find? (some "s") = some ({} : Scripted.Session) := rfl
  have opened : guarded.outcome 0 opening = .error (.failed (.permissionDenied "")) := by
    simp only [opening, outcome, Caller.openOutcome, there, path]
    rfl
  have read : guarded.outcome 0 reading = .ok (.transfer 12 []) := by rfl
  have clearly : ¬ guarded.Ambiguous 0 opening := by
    rintro (⟨status, found, ok⟩ | ⟨answer, found, -⟩)
    · cases opened.symm.trans found
      cases ok
    · cases opened.symm.trans found
  have plainly : ¬ guarded.Ambiguous 0 reading := by
    rintro (⟨status, found, -⟩ | ⟨answer, found, failing⟩)
    · cases read.symm.trans found
    · cases read.symm.trans found
      cases failing
  obtain ⟨recorded, -, -⟩ := sentinel_marks_recorded_error guarded 0 opening rfl
  obtain ⟨kept, -, counted⟩ := sentinel_marks_recorded_error guarded 0 reading rfl
  have null : opening.failing (guarded.call 0 opening).1 = true := by
    simp only [opening, call, openFile, Caller.openFile, there, path]
    rfl
  have number : reading.failing (guarded.call 0 reading).1 = false := by rfl
  have twelve : guarded.numberAnswered? reading = some 12 := by rfl
  rw [null] at recorded
  rw [number] at kept
  rw [twelve] at counted
  exact ⟨⟨rfl, recorded clearly⟩, rfl, kept plainly, counted.mpr (by decide)⟩

/-- An ok status as a failure: the handle is null, and no error says why. A count of more than
32 bits: the number answered is another one. -/
theorem null_handle_beside_stale_error :
    let client := scripted fun
      | .openFile => .fail ⟨.ok, "not now"⟩
      | .read => .succeed 4294967301
      | _ => .succeed 0
    let opening := Call.openFile (some "s") (some [47, 97]) (some "g")
    let reading := Call.read (some "s") (some "f") 64 true
    ¬ (opening.failing (client.call 0 opening).1 = true ↔ client.RecordsError 0 opening) ∧
      reading.failing (client.call 0 reading).1 = false ∧
      client.numberAnswered? reading = some 4294967301 ∧
      (client.call 0 reading).1.number = 5 := by
  intro client opening reading
  have path : requiredText "path" (some [47, 97]) = .ok "/a" :=
    requiredText_of_textOf? (textOf?_of_encode rfl) _
  have null : opening.failing (client.call 0 opening).1 = true := by
    have there : client.sessions.find? (some "s") = some ({} : Scripted.Session) := rfl
    simp only [opening, call, openFile, Caller.openFile, there, path]
    rfl
  have recalled (stale : LastError) : client.errorAfter 0 opening stale = stale := by
    have there : (client.recalling 0 stale).sessions.find? (some "s") = some ({} : Scripted.Session) := rfl
    simp only [errorAfter, opening, call, openFile, Caller.openFile, there, path]
    rfl
  refine ⟨fun same => ?_, by rfl, by rfl, by rfl⟩
  obtain ⟨error, recorded⟩ := same.mp null
  cases ((recalled (1, "")).symm.trans (recorded _)).trans ((recorded _).symm.trans (recalled (2, "")))

end Client
end DfsClient
