import DfsClient.Client.Call
import DfsClient.Proofs.Outcome

/-! Every call of a client settles its outcome: it answers it, or it answers what stands
for a failure and reports that failure to its own thread alone. -/

namespace DfsClient
open Boundary

def Answer.ofHandle {α : Type} (found : Option α) : Answer := .handle found.isSome

def Boundary.Failure.code : Failure → Int32
  | .refused fault => fault.code
  | _ => -1

/-- What a call answers in place of an answer. Most setters of builders have no way to. -/
def Call.sentinel (call : Call) (failure : Failure) : Answer :=
  match call with
  | .connect .. | .connectBuilder .. | .openFile .. | .newBuilder _ | .newBuilderFrom .. => .handle false
  | .read .. | .readAt .. => .transfer (-1) []
  | .tell .. => .position (-1)
  | .changeBuilder _ (.value ..) => .code failure.code
  | .changeBuilder .. => .nothing
  | .lookUpText .. | .lookUpDefaultText .. => .text failure.code none
  | .lookUpInteger .. | .lookUpDefaultInteger .. => .integer failure.code none
  | _ => .code (-1)

namespace Client

variable {engine : Engine}

section
variable [Formats]

def loadOutcome (client : Client engine) (path : Config.SearchPath) : Except Failure Builder :=
  finished (Builder.load client.tree path client.scene).1

def directoryOutcome (client : Client engine) (directory : Given) : Except Failure Builder :=
  match requiredText "configDirectory" directory with
  | .error fault => .error (.refused fault)
  | .ok directory => client.loadOutcome (.set {} directory)

def outcome (client : Client engine) (thread : Nat) : Call → Except Failure Answer
  | .connect host port user _ =>
    ((client.caller thread).directOutcome host port user).map fun _ => .handle true
  | .connectBuilder builder _ =>
    ((client.caller thread).builderOutcome (client.builders.find? builder)).map fun _ => .handle true
  | .disconnect session =>
    (Caller.disconnectOutcome client.scene (client.sessions.find? session)).map fun () => .code 0
  | .openFile session path _ =>
    ((client.caller thread).openOutcome (client.sessions.find? session) path).map fun _ => .handle true
  | .isOpenForRead file => .ok (.code (if (client.files.find? file).isSome then 1 else 0))
  | .closeFile session file =>
    (Caller.closeOutcome client.scene (client.sessions.find? session) (client.files.find? file)).map
      fun () => .code 0
  | .read session file length present =>
    (Caller.useOutcome client.scene (client.sessions.find? session) (client.files.find? file)
      (room length present) engine.read).map fun answer => .ofTransfer (some answer)
  | .readAt session file position length present =>
    (Caller.useOutcome client.scene (client.sessions.find? session) (client.files.find? file)
      (roomAt position length present) Caller.readingAt).map fun answer => .ofTransfer (some answer)
  | .seek session file position =>
    (Caller.useOutcome client.scene (client.sessions.find? session) (client.files.find? file)
      (offset "desiredPos" position) fun file start => engine.seek file (.start start)).map
        fun _ => .code 0
  | .tell session file =>
    (Caller.useOutcome client.scene (client.sessions.find? session) (client.files.find? file)
      (.ok ()) fun file () => engine.seek file (.current 0)).map fun place => .ofPosition (some place)
  | .cancel session file =>
    (Caller.useOutcome client.scene (client.sessions.find? session) (client.files.find? file)
      (.ok ()) Caller.canceling).map fun () => .code 0
  | .newBuilder _ => (client.loadOutcome (.ofVariables client.environment)).map fun _ => .handle true
  | .newBuilderFrom directory _ => (client.directoryOutcome directory).map fun _ => .handle true
  | .freeBuilder _ => .ok .nothing
  | .changeBuilder builder change =>
    (allowed (changed (client.builders.find? builder) change)).map fun _ =>
      match change with
      | .value .. => .code 0
      | _ => .nothing
  | .lookUpText builder key present =>
    (allowed (lookUpText (client.builders.find? builder) key present)).map (.text 0)
  | .lookUpInteger builder key present =>
    (allowed (lookUpInteger (client.builders.find? builder) key present)).map fun n => .integer 0 (some n)
  | .lookUpDefaultText key present =>
    (client.loadOutcome (.ofVariables client.environment)).bind fun builder =>
      (allowed (lookUpText (some builder) key present)).map (.text 0)
  | .lookUpDefaultInteger key present =>
    (client.loadOutcome (.ofVariables client.environment)).bind fun builder =>
      (allowed (lookUpInteger (some builder) key present)).map fun n => .integer 0 (some n)
  | .observeSessions _ | .observeFiles _ => .ok (.code 0)
  | .logTo _ => .ok .nothing
  | .filterLog request => .ok (.code (client.scene.ambient.filter.request request).1)
  | .fetchMessage length present buffer =>
    .ok (.buffer (fetchMessage (Text.encode (client.threads thread).message) length present buffer))

end

/-- A thread reported errors, and no thread's last error changed but for these. -/
structure Records (thread : Nat) (errors : List LastError) (before after : Client engine) : Prop where
  reports : after.scene.ambient.reports =
    before.scene.ambient.reports ++ errors.map Caller.reportNote
  own : (after.threads thread).lastError = errors.getLast?.getD (before.threads thread).lastError
  others : ∀ other, other ≠ thread → after.threads other = before.threads other

theorem lastError_foldl (errors : List LastError) (slots : Slots) :
    (errors.foldl Slots.withError slots).lastError = errors.getLast?.getD slots.lastError := by
  induction errors generalizing slots with
  | nil => rfl
  | cons error rest ih =>
    rw [List.foldl_cons, ih]
    cases rest with
    | nil => rfl
    | cons next rest => simp [List.getLast?_cons]

namespace Records

variable {thread : Nat} {errors : List LastError} {client after : Client engine}

theorem resume {caller : Caller engine.World} (records : Caller.Records errors (client.caller thread) caller) :
    Records thread errors client (client.resume thread caller) := by
  refine ⟨records.reports, ?_, fun other differ => threads_resume_other client caller differ⟩
  simp only [Client.resume, ↓reduceIte, records.slots]
  exact lastError_foldl errors _

/-- Whatever else changed, reports and threads are what counts. -/
theorem congr (records : Records thread errors client after) {last : Client engine}
    (reports : last.scene.ambient.reports = after.scene.ambient.reports)
    (threads : last.threads = after.threads) : Records thread errors client last := by
  refine ⟨reports.trans records.reports, ?_, ?_⟩
  · rw [threads]
    exact records.own
  · rw [threads]
    exact records.others

theorem refl (client : Client engine) : Records thread [] client client :=
  ⟨(List.append_nil _).symm, rfl, fun _ _ => rfl⟩

end Records

/-- The client once a thread reported an error. -/
def reporting (client : Client engine) (thread : Nat) (error : LastError) : Client engine :=
  { client with
    scene := client.scene.trace (Caller.reportNote error)
    threads := fun other =>
      if other = thread then (client.threads thread).withError error else client.threads other }

theorem resume_refused (client : Client engine) (thread : Nat) (fault : Fault) :
    client.resume thread ((client.caller thread).record (.refused fault)) = client.reporting thread fault.error :=
  congrArg (client.reporting thread) fault.error_eq

theorem reportFault_ok {α : Type} (client : Client engine) (thread : Nat) (value : α) :
    client.reportFault thread (client.caller thread) (.ok value) = client := client.resume_caller thread

theorem reportFault_error {α : Type} (client : Client engine) (thread : Nat) (fault : Fault) :
    client.reportFault thread (client.caller thread) (.error fault : Except Fault α) =
      client.reporting thread fault.error := client.resume_refused thread fault

structure Settles [Formats] (client : Client engine) (thread : Nat) (call : Call)
    (result : Answer × Client engine) : Prop where
  answer : result.1 = match client.outcome thread call with
    | .ok answer => answer
    | .error failure => call.sentinel failure
  records : Records thread (errorsOf (client.outcome thread call)) client result.2

namespace Settles

variable {client : Client engine} {thread : Nat} {call : Call} [Formats]

theorem ok {answer : Answer} {after : Client engine} (outcome : client.outcome thread call = .ok answer)
    (reports : after.scene.ambient.reports = client.scene.ambient.reports)
    (threads : after.threads = client.threads) : Settles client thread call (answer, after) := by
  refine ⟨by rw [outcome], ?_⟩
  rw [outcome]
  exact (Records.refl client).congr reports threads

theorem of_caller {α : Type} {found : Except Failure α} {value : α → Answer} {got : Option α}
    {caller : Caller engine.World} {answer : Answer} {after : Client engine}
    (settles : Caller.Settles (client.caller thread) found got caller)
    (outcome : client.outcome thread call = found.map value)
    (present : ∀ x, got = some x → answer = value x)
    (absent : ∀ failure, found = .error failure → got = none → answer = call.sentinel failure)
    (reports : after.scene.ambient.reports = caller.scene.ambient.reports)
    (threads : after.threads = (client.resume thread caller).threads) :
    Settles client thread call (answer, after) := by
  have records := (Records.resume settles.records).congr reports threads
  have answered := settles.answer
  cases found with
  | ok x =>
    refine ⟨?_, ?_⟩
    · rw [outcome]
      exact present x answered
    · rw [outcome]
      exact records
  | error failure =>
    refine ⟨?_, ?_⟩
    · rw [outcome]
      exact absent failure rfl answered
    · rw [outcome]
      exact records

/-- The same where every failure is presented alike. -/
theorem of_present {α : Type} {found : Except Failure α} {value : α → Answer} {got : Option α}
    {caller : Caller engine.World} {after : Client engine} (present : Option α → Answer)
    (settles : Caller.Settles (client.caller thread) found got caller)
    (outcome : client.outcome thread call = found.map value)
    (some : ∀ x, present (some x) = value x) (none : ∀ failure, present none = call.sentinel failure)
    (reports : after.scene.ambient.reports = caller.scene.ambient.reports)
    (threads : after.threads = (client.resume thread caller).threads) :
    Settles client thread call (present got, after) :=
  of_caller settles outcome (fun x got => (congrArg present got).trans (some x))
    (fun failure _ got => (congrArg present got).trans (none failure)) reports threads

end Settles

theorem reports_replaceSession (silent : engine.Silent) (client : Client engine) (into : Handle)
    (session : Option engine.Session) :
    (client.replaceSession into session).scene.ambient.reports = client.scene.ambient.reports := by
  unfold replaceSession
  dsimp only
  split
  · exact silent.dropSession ..
  · rfl

theorem reports_replaceFile (silent : engine.Silent) (client : Client engine) (into : Handle)
    (file : Option engine.File) :
    (client.replaceFile into file).scene.ambient.reports = client.scene.ambient.reports := by
  unfold replaceFile
  dsimp only
  split
  · exact silent.dropFile ..
  · rfl

theorem useFile_settles [Formats] {α β : Type} (client : Client engine) (thread : Nat) (call : Call)
    (session file : Handle) (arguments : Except Fault β)
    (operation : engine.File → β → Scene engine.World →
      Result α × engine.File × Scene engine.World)
    (quiet : ∀ held argument scene,
      (operation held argument scene).2.2.ambient.reports = scene.ambient.reports)
    (present : Option α → Answer) (value : α → Answer) (found : ∀ x, present (some x) = value x)
    (missing : ∀ failure, present none = call.sentinel failure)
    (outcome : client.outcome thread call = (Caller.useOutcome client.scene
      (client.sessions.find? session) (client.files.find? file) arguments operation).map value) :
    let (answer, after) := client.useFile thread session file
      fun caller session file => caller.useFile session file arguments operation
    Settles client thread call (present answer, after) := by
  have settles := Caller.useFile_settles (client.caller thread) (client.sessions.find? session)
    (client.files.find? file) arguments operation quiet
  exact Settles.of_present present settles outcome found missing rfl rfl

section
variable (silent : engine.Silent) (client : Client engine) (thread : Nat)
include silent
variable [Formats]

theorem connect_settles (calm : ∀ session scene, (engine.dropSession session scene).1 = .answered ())
    (host : Given) (port : UInt16) (user : Given) (into : Handle) :
    Settles client thread (.connect host port user into) (client.connect thread host port user into) := by
  have settles := Caller.connectDirect_settles silent calm (client.caller thread) host port user
  exact Settles.of_present Answer.ofHandle settles rfl (fun _ => rfl) (fun _ => rfl)
    (reports_replaceSession silent _ into _) rfl

theorem connectBuilder_settles
    (calm : ∀ session scene, (engine.dropSession session scene).1 = .answered ())
    (builder into : Handle) :
    Settles client thread (.connectBuilder builder into) (client.connectBuilder thread builder into) := by
  have settles := Caller.connectBuilder_settles silent calm (client.caller thread)
    (client.builders.find? builder)
  exact Settles.of_present Answer.ofHandle settles rfl (fun _ => rfl) (fun _ => rfl)
    (reports_replaceSession silent _ into _) rfl

theorem disconnect_settles (session : Handle) :
    Settles client thread (.disconnect session) (client.disconnect thread session) := by
  have settles := Caller.disconnect_settles silent (client.caller thread) (client.sessions.find? session)
  exact Settles.of_present Answer.ofUnit settles rfl (fun _ => rfl) (fun _ => rfl) rfl rfl

theorem openFile_settles (session : Handle) (path : Given) (into : Handle) :
    Settles client thread (.openFile session path into) (client.openFile thread session path into) := by
  have settles := Caller.openFile_settles silent (client.caller thread) (client.sessions.find? session) path
  exact Settles.of_present Answer.ofHandle settles rfl (fun _ => rfl) (fun _ => rfl)
    (reports_replaceFile silent _ into _) rfl

theorem closeFile_settles (session file : Handle) :
    Settles client thread (.closeFile session file) (client.call thread (.closeFile session file)) := by
  have settles := Caller.close_settles silent (client.caller thread) (client.sessions.find? session)
    (client.files.find? file)
  exact Settles.of_present Answer.ofUnit settles rfl (fun _ => rfl) (fun _ => rfl) rfl rfl

end

section
variable (client : Client engine) (thread : Nat) [Formats]

theorem reports_load (path : Config.SearchPath) :
    (Builder.load client.tree path client.scene).2.ambient.reports = client.scene.ambient.reports := by
  have others := Config.isReport_loadDefaults client.tree path
  exact (Scene.Quiet.traceAll client.scene _ others).reports

theorem load_settles (path : Config.SearchPath) :
    let (loaded, scene) := Builder.load client.tree path client.scene
    let (builder, caller) := Caller.finish { client.caller thread with scene } loaded
    Caller.Settles (client.caller thread) (client.loadOutcome path) builder caller :=
  (Caller.Settles.finish _ _).after_silence (reports_load client path)

theorem directoryBuilder_settles (directory : Given) :
    Caller.Settles (client.caller thread) (client.directoryOutcome directory)
      (client.directoryBuilder (client.caller thread) directory).1
      (client.directoryBuilder (client.caller thread) directory).2 := by
  cases given : requiredText "configDirectory" directory with
  | error fault =>
    simp only [directoryBuilder, directoryOutcome, given]
    exact Caller.Settles.refused _ _
  | ok text =>
    simp only [directoryBuilder, directoryOutcome, given]
    exact load_settles client thread (.set {} text)

theorem newBuilder_settles (into : Handle) :
    Settles client thread (.newBuilder into) (client.call thread (.newBuilder into)) :=
  Settles.of_present Answer.ofHandle (load_settles client thread (.ofVariables client.environment)) rfl
    (fun _ => rfl) (fun _ => rfl) rfl rfl

theorem newBuilderFrom_settles (directory : Given) (into : Handle) :
    Settles client thread (.newBuilderFrom directory into)
      (client.call thread (.newBuilderFrom directory into)) :=
  Settles.of_present Answer.ofHandle (directoryBuilder_settles client thread directory) rfl
    (fun _ => rfl) (fun _ => rfl) rfl rfl

theorem accept_settles {α : Type} {call : Call} {result : Except Fault α} {value : α → Answer}
    {scene : Scene engine.World} {after : Client engine}
    (quiet : scene.ambient.reports = client.scene.ambient.reports) (present : Except Fault α → Answer)
    (outcome : client.outcome thread call = (allowed result).map value)
    (found : ∀ x, present (.ok x) = value x)
    (missing : ∀ fault, present (.error fault) = call.sentinel (.refused fault))
    (reports : after.scene.ambient.reports =
      (Caller.accept { client.caller thread with scene } result).2.scene.ambient.reports)
    (threads : after.threads =
      (client.resume thread (Caller.accept { client.caller thread with scene } result).2).threads) :
    Settles client thread call (present result, after) := by
  have settles : Caller.Settles (client.caller thread) (allowed result)
      (Caller.accept { client.caller thread with scene } result).1
      (Caller.accept { client.caller thread with scene } result).2 :=
    (Caller.Settles.accept _ _).after_silence quiet
  cases result with
  | ok x =>
    exact Settles.of_caller settles outcome (fun y same => by cases same; exact found x) (fun _ => nofun)
      reports threads
  | error fault =>
    exact Settles.of_caller settles outcome (fun _ => nofun)
      (fun failure same _ => by cases same; exact missing fault) reports threads

theorem changeBuilder_settles (builder : Handle) (change : Change) :
    Settles client thread (.changeBuilder builder change)
      (client.changeBuilder thread builder change) := by
  unfold changeBuilder
  refine accept_settles client thread rfl (fun result => .ofChange result change) rfl ?_ ?_ ?_ ?_
  · intro x
    cases change <;> rfl
  · intro fault
    cases change <;> rfl
  · cases changed (client.builders.find? builder) change <;> rfl
  · cases changed (client.builders.find? builder) change <;> rfl

theorem lookUpText_settles (builder : Handle) (key : Given) (present : Bool) :
    Settles client thread (.lookUpText builder key present)
      (client.call thread (.lookUpText builder key present)) :=
  accept_settles client thread rfl .ofText rfl (fun _ => rfl) (fun _ => rfl) rfl rfl

theorem lookUpInteger_settles (builder : Handle) (key : Given) (present : Bool) :
    Settles client thread (.lookUpInteger builder key present)
      (client.call thread (.lookUpInteger builder key present)) :=
  accept_settles client thread rfl .ofInteger rfl (fun _ => rfl) (fun _ => rfl) rfl rfl

/-- Lookups in a default builder look it up where it could be loaded. -/
theorem default_settles {α : Type} {call : Call} {look : Builder → Except Fault α} {value : α → Answer}
    (present : Except Fault α → Answer)
    (outcome : client.outcome thread call =
      (client.loadOutcome (.ofVariables client.environment)).bind fun builder =>
        (allowed (look builder)).map value)
    (found : ∀ x, present (.ok x) = value x)
    (missing : ∀ fault, present (.error fault) = call.sentinel (.refused fault))
    (absent : Answer) (lost : ∀ payload, absent = call.sentinel (.panicked payload)) :
    Settles client thread call
      (match client.defaultBuilder (client.caller thread) with
        | (none, caller) => (absent, client.resume thread caller)
        | (some builder, caller) =>
          (present (look builder), client.reportFault thread caller (look builder))) := by
  have quiet := reports_load client (.ofVariables client.environment)
  have view : client.defaultBuilder (client.caller thread) =
      Caller.finish { client.caller thread with
        scene := (Builder.load client.tree (.ofVariables client.environment) client.scene).2 }
        (Builder.load client.tree (.ofVariables client.environment) client.scene).1 := rfl
  rw [view]
  unfold loadOutcome at outcome
  generalize (Builder.load client.tree (.ofVariables client.environment) client.scene).2 = scene at quiet ⊢
  cases loaded : (Builder.load client.tree (.ofVariables client.environment) client.scene).1 with
  | panicked payload =>
    rw [loaded] at outcome
    have outcome : client.outcome thread call = (.error (.panicked payload) : Except Failure α).map value :=
      outcome
    have settles : Caller.Settles (client.caller thread) (.error (.panicked payload) : Except Failure α)
        none (Caller.record { client.caller thread with scene } (.panicked payload)) :=
      (Caller.Settles.refused _ _).after_silence quiet
    exact Settles.of_caller settles outcome (fun _ => nofun)
      (fun failure same _ => by cases same; exact lost payload) rfl rfl
  | answered builder =>
    rw [loaded] at outcome
    have outcome : client.outcome thread call = (allowed (look builder)).map value := outcome
    exact accept_settles client thread quiet present outcome found missing rfl rfl

end

theorem observe_settles [Formats] (client : Client engine) (thread : Nat) {call : Call} {slots : Slots}
    (outcome : client.outcome thread call = .ok (.code 0))
    (same : slots.lastError = (client.threads thread).lastError) :
    Settles client thread call
      (.code 0, client.resume thread { client.caller thread with slots }) := by
  refine ⟨by rw [outcome], ?_⟩
  rw [outcome]
  refine ⟨(List.append_nil _).symm, ?_, fun other differ => threads_resume_other client _ differ⟩
  simp only [Client.resume, ↓reduceIte]
  exact same

/-- Every call settles its outcome, whatever a silent engine answers, as long as it does not
panic when a session is released. -/
theorem call_settles [Formats] (silent : engine.Silent)
    (calm : ∀ session scene, (engine.dropSession session scene).1 = .answered ())
    (client : Client engine) (thread : Nat) (call : Call) :
    Settles client thread call (client.call thread call) := by
  cases call with
  | connect host port user into => exact connect_settles silent client thread calm host port user into
  | connectBuilder builder into => exact connectBuilder_settles silent client thread calm builder into
  | disconnect session => exact disconnect_settles silent client thread session
  | openFile session path into => exact openFile_settles silent client thread session path into
  | isOpenForRead file => exact Settles.ok rfl rfl rfl
  | closeFile session file => exact closeFile_settles silent client thread session file
  | read session file length present =>
    exact useFile_settles client thread _ session file (room length present) engine.read silent.read
      .ofTransfer _ (fun _ => rfl) (fun _ => rfl) rfl
  | readAt session file position length present =>
    exact useFile_settles client thread _ session file (roomAt position length present) _
      (fun file place => silent.readAt file place.2 place.1) .ofTransfer _ (fun _ => rfl) (fun _ => rfl) rfl
  | seek session file position =>
    exact useFile_settles client thread _ session file (offset "desiredPos" position) _
      (fun file start => silent.seek file (.start start))
      (fun answer => .ofUnit (answer.map fun _ => ())) _ (fun _ => rfl) (fun _ => rfl) rfl
  | tell session file =>
    exact useFile_settles client thread _ session file (.ok ()) _
      (fun file _ => silent.seek file (.current 0)) .ofPosition _ (fun _ => rfl) (fun _ => rfl) rfl
  | cancel session file =>
    exact useFile_settles client thread _ session file (.ok ()) Caller.canceling
      (fun file _ => silent.cancel file) .ofUnit _ (fun _ => rfl) (fun _ => rfl) rfl
  | newBuilder into => exact newBuilder_settles client thread into
  | newBuilderFrom directory into => exact newBuilderFrom_settles client thread directory into
  | freeBuilder builder => exact Settles.ok rfl rfl rfl
  | changeBuilder builder change => exact changeBuilder_settles client thread builder change
  | lookUpText builder key present => exact lookUpText_settles client thread builder key present
  | lookUpInteger builder key present => exact lookUpInteger_settles client thread builder key present
  | lookUpDefaultText key present =>
    exact default_settles client thread .ofText rfl (fun _ => rfl) (fun _ => rfl) _ fun _ => rfl
  | lookUpDefaultInteger key present =>
    exact default_settles client thread .ofInteger rfl (fun _ => rfl) (fun _ => rfl) _ fun _ => rfl
  | observeSessions monitor => exact observe_settles client thread rfl rfl
  | observeFiles monitor => exact observe_settles client thread rfl rfl
  | logTo handler => exact Settles.ok rfl rfl rfl
  | filterLog request => exact Settles.ok rfl rfl rfl
  | fetchMessage length present buffer => exact Settles.ok rfl rfl rfl

end Client
end DfsClient
