import DfsClient.Proofs.ErrorSlots
import DfsClient.Proofs.FaultInjection

/-! Whatever succeeds was announced: each connect, open and read that succeeds told its
observer, if there is one, exactly once. -/

namespace DfsClient
open Boundary

/-- Calls of which observers are told. -/
def Call.eventful : Call → Bool
  | .connect .. | .connectBuilder .. | .openFile .. | .read .. | .readAt .. => true
  | _ => false

/-- One more event was told for an observer than before, or none if there is no observer. -/
def Ambient.Announced (observer : Option Observer) (before after : Ambient) : Prop :=
  after.told = before.told + observer.toList.length

namespace Ambient.Announced

variable {observer : Option Observer} {before between after : Ambient}

theorem then_silence (announced : Announced observer before between) (silence : Tells observer [] between after) :
    Announced observer before after :=
  silence.told.trans announced

theorem after_silence (silence : Tells observer [] before between) (announced : Announced observer between after) :
    Announced observer before after :=
  announced.trans (congrArg (· + observer.toList.length) silence.told)

end Ambient.Announced

theorem Scene.tell?_announced {World : Type} (scene : Scene World) {observer : Option Observer}
    (crossing : Crossing observer) (event : Event) :
    scene.ambient.Announced observer (scene.tell? observer event).2.ambient := by
  cases observer with
  | none => rfl
  | some one =>
    obtain ⟨monitor, rfl⟩ := crossing one rfl
    rfl

namespace Memory

section
variable {World : Type}

theorem File.copyAt_announced {file : File} (crossing : Crossing file.observer) {length offset : Nat}
    {scene : Scene World} {transfer : Transfer} (copied : (file.copyAt length offset scene).1 = .ok transfer) :
    scene.ambient.Announced file.observer (file.copyAt length offset scene).2.ambient := by
  unfold File.copyAt at copied ⊢
  dsimp only at copied ⊢
  split at copied
  · cases copied
  next going =>
    rw [if_neg going]
    have told := scene.tell?_announced crossing
      ⟨fileEvents.read, file.cluster, some file.path, Int64.ofNat (min length (file.length - min offset file.length))⟩
    generalize scene.tell? file.observer _ = got at told copied ⊢
    obtain ⟨response, after⟩ := got
    cases response with
    | fail status => cases copied
    | proceed => exact told.then_silence (.log ..)

theorem File.readAt_announced {file : File} (crossing : Crossing file.observer) {length offset : Nat}
    {scene : Scene World} {transfer : Transfer} (done : (file.readAt length offset scene).1 = .ok transfer) :
    scene.ambient.Announced file.observer (file.readAt length offset scene).2.2.ambient :=
  File.copyAt_announced crossing done

theorem File.read_announced {file : File} (crossing : Crossing file.observer) {length : Nat}
    {scene : Scene World} {transfer : Transfer} (done : (file.read length scene).1 = .ok transfer) :
    scene.ambient.Announced file.observer (file.read length scene).2.2.ambient := by
  have announced := @File.copyAt_announced World file crossing length file.position scene
  unfold File.read at done ⊢
  generalize file.copyAt length file.position scene = got at announced done ⊢
  obtain ⟨result, after⟩ := got
  match result with
  | .answered (.ok copied) => exact announced rfl
  | .answered (.error status) => cases done
  | .panicked payload => cases done

end

namespace Session

theorem connectTo_announced {session : Session} (crossing : Crossing session.observer) {host : String}
    {port : UInt16} {scene : Scene World} (done : (session.connectTo host port scene).1 = .ok ()) :
    scene.ambient.Announced session.observer (session.connectTo host port scene).2.2.ambient := by
  let start := scene.log .info .fileSystem
    ("Connecting to " ++ endpoint host port ++ " as '" ++ session.user ++ "'")
  have begun : scene.ambient.Tells session.observer [] start.ambient := .log ..
  have told := start.tell?_announced crossing (scene.world.connecting session.engine host port)
  rw [connectTo_eq] at done ⊢
  refine .after_silence begun ?_
  dsimp only at done ⊢
  generalize start.tell? session.observer _ = got at told done ⊢
  obtain ⟨response, after⟩ := got
  cases response with
  | fail status => cases done
  | proceed => exact told.then_silence (session.tells_arrive ..)

theorem connect_announced {session : Session} (crossing : Crossing session.observer) {host service : String}
    {scene : Scene World} (done : (session.connect host service scene).1 = .ok ()) :
    scene.ambient.Announced session.observer (session.connect host service scene).2.2.ambient := by
  unfold connect at done ⊢
  split at done
  · cases done
  · exact connectTo_announced crossing done

theorem connectDefault_announced {session : Session} (crossing : Crossing session.observer)
    {scene : Scene World} (done : (session.connectDefault scene).1 = .ok ()) :
    scene.ambient.Announced session.observer (session.connectDefault scene).2.2.ambient := by
  unfold connectDefault at done ⊢
  split at done
  · cases done
  · split at done
    · cases done
    · exact connect_announced crossing done

theorem reach_announced {session : Session} (crossing : Crossing session.observer) {endpoint : Endpoint}
    {scene : Scene Memory.engine.World} (done : (@reach Memory.engine session endpoint scene).1 = .ok ()) :
    scene.ambient.Announced session.observer (@reach Memory.engine session endpoint scene).2.2.ambient := by
  unfold reach at done ⊢
  cases endpoint with
  | defaultFs =>
    rw [engine_connectDefault] at done ⊢
    exact connectDefault_announced crossing done
  | explicit host port =>
    rw [engine_connect] at done ⊢
    dsimp only at done ⊢
    have announced := @connect_announced session crossing host (toString port.toNat) scene
    -- Once they have a name, the results of the connect are compared, not computed.
    generalize session.connect host (toString port.toNat) scene = got at announced done ⊢
    exact announced done

theorem openFile_announced {session : Session} (crossing : Crossing session.observer) {path : String}
    {scene : Scene World} {file : File} (done : (session.openFile path scene).1 = .ok file) :
    scene.ambient.Announced session.observer (session.openFile path scene).2.ambient := by
  unfold openFile at done ⊢
  split at done
  · cases done
  next id bound =>
    dsimp only at done ⊢
    have told := scene.tell?_announced crossing
      ⟨sessionEvents.read, (scene.world.clusters id).name, none, 0⟩
    generalize scene.tell? session.observer _ = got at told done ⊢
    obtain ⟨response, after⟩ := got
    cases response with
    | fail status => cases done
    | proceed =>
      dsimp only at done ⊢
      split at done
      · cases done
      · exact told.then_silence (.log ..)

end Session
end Memory

namespace Boundary.Caller
open Memory

variable {caller : Caller engine.World}

theorem concluding_some {got : Result Unit × Session × Scene engine.World} {session : engine.Session}
    (made : (caller.concluding got).1 = some session) :
    got.1 = .ok () ∧ got.2.1 = session ∧ (caller.concluding got).2.scene = got.2.2 := by
  obtain ⟨result, held, scene⟩ := got
  match result with
  | .answered (.ok ()) => exact ⟨rfl, Option.some.inj made, rfl⟩
  | .answered (.error status) => cases made
  | .panicked payload => cases made

theorem connect_announced (crossing : Crossing caller.slots.sessionObserver) {endpoint : Endpoint}
    {user : Option String} {options : Options} {session : engine.Session}
    (made : (caller.connect endpoint user options).1 = some session) :
    caller.scene.ambient.Announced caller.slots.sessionObserver
      (caller.connect endpoint user options).2.scene.ambient := by
  rw [connect_eq] at made ⊢
  obtain ⟨reached, -, scene⟩ := concluding_some made
  rw [scene]
  exact (Session.reach_announced crossing reached).after_silence (.trace ..)

theorem connectDirect_announced (crossing : Crossing caller.slots.sessionObserver) {host : Given}
    {port : UInt16} {user : Given} {session : engine.Session}
    (made : (caller.connectDirect host port user).1 = some session) :
    caller.scene.ambient.Announced caller.slots.sessionObserver
      (caller.connectDirect host port user).2.scene.ambient := by
  unfold connectDirect at made ⊢
  cases named : optionalText "nn" host with
  | error fault =>
    rw [named] at made
    cases made
  | ok host =>
    rw [named] at made
    cases known : optionalText "user" user with
    | error fault =>
      rw [known] at made
      cases made
    | ok user =>
      rw [known] at made
      exact connect_announced crossing made

theorem connectBuilder_announced [Formats] (crossing : Crossing caller.slots.sessionObserver) {builder : Option Builder}
    {session : engine.Session} (made : (caller.connectBuilder builder).1 = some session) :
    caller.scene.ambient.Announced caller.slots.sessionObserver
      (caller.connectBuilder builder).2.scene.ambient := by
  cases builder with
  | none => cases made
  | some builder =>
    refine Ambient.Announced.after_silence (Scene.tells_optionsOf _ caller.scene builder.snapshot) ?_
    exact @connect_announced { caller with scene := (caller.scene.optionsOf builder.snapshot).2 } crossing
      _ _ _ session made

theorem openFile_announced {session : Option engine.Session}
    (crossing : ∀ held, session = some held → Crossing (Session.observer held)) {path : Given}
    {file : engine.File} (opened : (caller.openFile session path).1 = some file) :
    caller.scene.ambient.Announced (session.bind Session.observer)
      (caller.openFile session path).2.2.scene.ambient := by
  cases session with
  | none => cases opened
  | some session =>
    cases given : requiredText "path" path with
    | error fault =>
      simp only [Caller.openFile, given] at opened
      cases opened
    | ok text =>
      rw [openFile_given caller session given] at opened ⊢
      have announced := @Session.openFile_announced session (crossing session rfl) text caller.scene
      have fresh := @Session.openFile_ok session text caller.scene
      generalize Session.openFile session text caller.scene = got at announced fresh opened ⊢
      obtain ⟨result, scene⟩ := got
      cases result with
      | panicked payload => cases opened
      | answered outcome =>
        cases outcome with
        | error status => cases opened
        | ok made =>
          refine (announced rfl).then_silence ?_
          refine (caller.opening_unobserved session _ (.ok made, scene) fun file same => ?_).1
          obtain ⟨id, content, -, -, rfl⟩ := fresh same
          rfl

theorem useFile_announced {α β : Type} {session : Option engine.Session} {file : Option engine.File}
    (crossing : ∀ held, file = some held → Crossing (File.observer held)) {arguments : Except Fault β}
    {operation : engine.File → β → Scene engine.World → Result α × engine.File × Scene engine.World}
    (announced : ∀ held argument (scene : Scene engine.World) answer, Crossing (File.observer held) →
      (operation held argument scene).1 = .ok answer →
        scene.ambient.Announced (File.observer held) (operation held argument scene).2.2.ambient)
    {answer : α} (used : (caller.useFile session file arguments operation).1 = some answer) :
    caller.scene.ambient.Announced (file.bind File.observer)
      (caller.useFile session file arguments operation).2.2.scene.ambient := by
  cases session with
  | none => cases used
  | some session =>
    cases file with
    | none => cases used
    | some held =>
      cases arguments with
      | error fault => cases used
      | ok argument =>
        rw [useFile_ok] at used ⊢
        have told := announced held argument caller.scene
        generalize operation held argument caller.scene = got at told used ⊢
        obtain ⟨result, after, scene⟩ := got
        match result with
        | .answered (.ok done) => exact told done (crossing held rfl) rfl
        | .answered (.error status) => cases used
        | .panicked payload => cases used

end Boundary.Caller

namespace Client
open Memory

/-- Only what is there makes a call succeed. -/
theorem present_of_done {α : Type} {call : Call} (present : Option α → Answer)
    (absent : call.failing (present none) = true) {got : Option α}
    (done : call.failing (present got) = false) : ∃ made, got = some made := by
  cases got with
  | some made => exact ⟨made, rfl⟩
  | none =>
    rw [absent] at done
    cases done

/-- A call that succeeds was announced to its audience, if it is one to be announced. -/
theorem call_announced [Formats] (client : Client engine) (sound : client.holdings.Sound) (thread : Nat) {call : Call}
    (eventful : call.eventful = true) (done : call.failing (client.call thread call).1 = false) :
    client.scene.ambient.Announced (client.audience thread call)
      (client.call thread call).2.scene.ambient := by
  have waiting : Crossing (client.caller thread).slots.sessionObserver := sound.sessionObserver thread
  cases call with
  | connect host port user into =>
    obtain ⟨session, made⟩ := present_of_done .ofHandle rfl done
    have announced := Caller.connectDirect_announced waiting made
    change client.scene.ambient.Announced _ ((client.connected thread into _).2.scene.ambient)
    unfold connected
    rw [ambient_replaceSession]
    exact announced
  | connectBuilder builder into =>
    obtain ⟨session, made⟩ := present_of_done .ofHandle rfl done
    have announced := Caller.connectBuilder_announced waiting made
    change client.scene.ambient.Announced _ ((client.connected thread into _).2.scene.ambient)
    unfold connected
    rw [ambient_replaceSession]
    exact announced
  | openFile session path into =>
    obtain ⟨file, made⟩ := present_of_done .ofHandle rfl done
    have announced := Caller.openFile_announced (sound.session_crossing session) made
    change client.scene.ambient.Announced _ ((client.opened thread session into _).2.scene.ambient)
    unfold opened
    rw [ambient_replaceFile]
    exact announced
  | read session file length present =>
    obtain ⟨transfer, used⟩ := present_of_done .ofTransfer rfl done
    exact Caller.useFile_announced (sound.file_crossing file)
      (fun held count scene answer crossing read => File.read_announced crossing read) used
  | readAt session file position length present =>
    obtain ⟨transfer, used⟩ := present_of_done .ofTransfer rfl done
    exact Caller.useFile_announced (sound.file_crossing file)
      (fun held place scene answer crossing read => File.readAt_announced crossing read) used
  | _ => cases eventful

end Client
end DfsClient
