import DfsClient.Proofs.DueEvents
import DfsClient.Proofs.Numerals
import DfsClient.Proofs.Obedience

/-! Two runs of an operation, in surroundings that differ in what does not concern it: what was
logged, what others were told, and how many services engines run. Both tell the observer the same,
and as long as the replies to it are the same they come to the same. -/

namespace DfsClient
open Boundary

structure Lockstep {τ : Type} (observer : Option Observer) (event : Option Event)
    (before before' : Ambient) (surroundings : τ → Ambient) (alike : τ → τ → Prop) (got got' : τ) :
    Prop where
  hears : before.Hears observer (noticesOf observer event) (surroundings got)
  hears' : before'.Hears observer (noticesOf observer event) (surroundings got')
  alike : before.repliesTo (noticesOf observer event) = before'.repliesTo (noticesOf observer event) →
    alike got got'

namespace Lockstep

variable {τ σ : Type} {observer : Option Observer} {event : Option Event}
  {start start' before before' : Ambient} {surroundings : τ → Ambient} {alike : τ → τ → Prop} {got got' : τ}

theorem silent (hears : before.Hears observer [] (surroundings got))
    (hears' : before'.Hears observer [] (surroundings got')) (same : alike got got') :
    Lockstep observer none before before' surroundings alike got got' := by
  constructor
  · rw [noticesOf_none]
    exact hears
  · rw [noticesOf_none]
    exact hears'
  · exact fun _ => same

theorem after_silence (silence : start.Hears observer [] before) (silence' : start'.Hears observer [] before')
    (steps : Lockstep observer event before before' surroundings alike got got') :
    Lockstep observer event start start' surroundings alike got got' := by
  refine ⟨silence.trans steps.hears, silence'.trans steps.hears', fun same => steps.alike ?_⟩
  rw [silence.repliesTo_eq, silence'.repliesTo_eq]
  exact same

/-- What tells nobody goes on in lockstep. -/
theorem lift {surroundings' : σ → Ambient} {alike' : σ → σ → Prop} {next next' : σ}
    (steps : Lockstep observer event before before' surroundings alike got got')
    (silence : (surroundings got).Hears observer [] (surroundings' next))
    (silence' : (surroundings got').Hears observer [] (surroundings' next'))
    (keeps : alike got got' → alike' next next') :
    Lockstep observer event before before' surroundings' alike' next next' :=
  ⟨steps.hears.then_silence silence, steps.hears'.then_silence silence', fun same => keeps (steps.alike same)⟩

end Lockstep

namespace Memory

/-- Two worlds that differ at most in the numbers of services that engines run. -/
structure World.Like (one other : World) : Prop where
  installed : one.installed = other.installed
  clusters : one.clusters = other.clusters
  endpoints : ∀ id, (one.engines id).endpoints = (other.engines id).endpoints

namespace World.Like

variable {one other third : World}

theorem refl (world : World) : world.Like world := ⟨rfl, rfl, fun _ => rfl⟩

theorem symm (like : one.Like other) : other.Like one :=
  ⟨like.installed.symm, like.clusters.symm, fun id => (like.endpoints id).symm⟩

theorem trans (first : one.Like other) (second : other.Like third) : one.Like third :=
  ⟨first.installed.trans second.installed, first.clusters.trans second.clusters, fun id =>
    (first.endpoints id).trans (second.endpoints id)⟩

theorem setServices (world : World) (id : EngineId) (services : Int) :
    (world.setEngine id { world.engines id with services }).Like world :=
  ⟨rfl, rfl, world.endpoints_setServices id services⟩

theorem addService (like : one.Like other) (id : EngineId) : (one.addService id).Like (other.addService id) :=
  ((setServices one id _).trans like).trans (setServices other id _).symm

theorem removeService (like : one.Like other) (id : EngineId) :
    (one.removeService id).Like (other.removeService id) :=
  ((setServices one id _).trans like).trans (setServices other id _).symm

theorem reach? (like : one.Like other) (id : EngineId) (host : String) (port : UInt16) :
    one.reach? id host port = other.reach? id host port := by
  unfold World.reach?
  rw [like.endpoints]

end World.Like

/-- Two results of a method: the same answer, the same thing it is a method of, and worlds alike. -/
structure Ended {α σ : Type} (got got' : Result α × σ × Scene World) : Prop where
  answer : got.1 = got'.1
  held : got.2.1 = got'.2.1
  world : got.2.2.world.Like got'.2.2.world

end Memory

theorem Scene.tell?_lockstep {one other : Scene Memory.World} (like : one.world.Like other.world)
    {observer : Option Observer} (crossing : Crossing observer) (event : Event) :
    Lockstep observer (some event) one.ambient other.ambient (fun got => got.2.ambient)
      (fun got got' => got.1 = got'.1 ∧ got.2.world.Like got'.2.world)
      (one.tell? observer event) (other.tell? observer event) := by
  cases observer with
  | none => exact ⟨.refl _ _, .refl _ _, fun _ => ⟨rfl, like⟩⟩
  | some listening =>
    obtain ⟨monitor, rfl⟩ := crossing listening rfl
    have arrives : noticesOf (some (.handler monitor)) (some event) = [⟨monitor, event.deliver⟩] :=
      congrArg (fun event => [Notice.mk monitor event]) event.deliver_eq.symm
    constructor
    · rw [arrives]
      exact (one.ambient.tells_handler monitor event).toHears
    · rw [arrives]
      exact (other.ambient.tells_handler monitor event).toHears
    · intro same
      rw [arrives] at same
      exact ⟨congrArg Response.ofReply (List.cons.inj same).1, like⟩

namespace Memory

theorem World.Like.nameAt {one other : World} (like : one.Like other) (id : EngineId) (host : String)
    (port : UInt16) : one.nameAt id host port = other.nameAt id host port := by
  unfold World.nameAt
  rw [like.reach?, like.clusters]

/-- The file once so much of it was read. -/
def File.past (file : File) : Result Transfer → File
  | .answered (.ok transfer) => { file with position := file.position + transfer.count }
  | _ => file

theorem File.read_eq {World : Type} (file : File) (length : Nat) (scene : Scene World) :
    file.read length scene =
      let got := file.copyAt length file.position scene
      (got.1, file.past got.1, got.2) := by
  unfold File.read
  match file.copyAt length file.position scene with
  | (.answered (.ok transfer), after) => rfl
  | (.answered (.error status), after) => rfl
  | (.panicked payload, after) => rfl

theorem World.Like.connecting {one other : World} (like : one.Like other) (id : EngineId) (host : String)
    (port : UInt16) : one.connecting id host port = other.connecting id host port :=
  congrArg (fun name => Event.mk _ name _ _) (like.nameAt id host port)

theorem World.Like.dueConnect {one other : World} (like : one.Like other) (id : EngineId) (options : Options)
    (endpoint : Endpoint) : one.dueConnect? id options endpoint = other.dueConnect? id options endpoint :=
  Option.map_congr fun address _ => like.connecting id address.1 address.2

namespace Session

end Session

variable {one other : Scene World} (like : one.world.Like other.world)
include like

namespace File

theorem copyAt_lockstep {file : File} (crossing : Crossing file.observer) (length offset : Nat) :
    Lockstep file.observer (file.dueRead? length offset) one.ambient other.ambient
      (fun got => got.2.ambient) (fun got got' => got.1 = got'.1 ∧ got.2.world.Like got'.2.world)
      (file.copyAt length offset one) (file.copyAt length offset other) := by
  have told := Scene.tell?_lockstep like crossing ⟨fileEvents.read, file.cluster, some file.path,
    Int64.ofNat (min length (file.length - min offset file.length))⟩
  unfold copyAt dueRead?
  split
  · exact .silent (.refl _ _) (.refl _ _) ⟨rfl, like⟩
  · dsimp only
    generalize one.tell? file.observer _ = got at told
    generalize other.tell? file.observer _ = got' at told
    obtain ⟨response, after⟩ := got
    obtain ⟨response', after'⟩ := got'
    refine told.lift ?_ ?_ ?_
    · cases response with
      | fail status => exact .refl _ _
      | proceed => exact (Ambient.Tells.log ..).toHears
    · cases response' with
      | fail status => exact .refl _ _
      | proceed => exact (Ambient.Tells.log ..).toHears
    · rintro ⟨rfl, worlds⟩
      cases response with
      | fail status => exact ⟨rfl, worlds⟩
      | proceed => exact ⟨rfl, worlds⟩

theorem readAt_lockstep {file : File} (crossing : Crossing file.observer) (length offset : Nat) :
    Lockstep file.observer (file.dueRead? length offset) one.ambient other.ambient
      (fun got => got.2.2.ambient) Ended (file.readAt length offset one) (file.readAt length offset other) := by
  apply (copyAt_lockstep like crossing length offset).lift
  · exact .refl _ _
  · exact .refl _ _
  · rintro ⟨same, worlds⟩
    exact ⟨same, rfl, worlds⟩

theorem read_lockstep {file : File} (crossing : Crossing file.observer) (length : Nat) :
    Lockstep file.observer (file.dueRead? length file.position) one.ambient other.ambient
      (fun got => got.2.2.ambient) Ended (file.read length one) (file.read length other) := by
  have copied := copyAt_lockstep like crossing length file.position
  rw [read_eq, read_eq]
  apply copied.lift
  · exact .refl _ _
  · exact .refl _ _
  · rintro ⟨same, worlds⟩
    exact ⟨same, congrArg file.past same, worlds⟩

theorem seek_lockstep (file : File) (goal : SeekTarget) :
    Lockstep file.observer none one.ambient other.ambient (fun got => got.2.2.ambient) Ended
      (.answered (file.seek goal).1, (file.seek goal).2, one)
      (.answered (file.seek goal).1, (file.seek goal).2, other) :=
  .silent (.refl _ _) (.refl _ _) ⟨rfl, rfl, like⟩

theorem cancel_lockstep (file : File) :
    Lockstep file.observer none one.ambient other.ambient (fun got => got.2.2.ambient) Ended
      (.ok (), file.cancel one) (.ok (), file.cancel other) :=
  .silent (Ambient.Tells.log ..).toHears (Ambient.Tells.log ..).toHears ⟨rfl, rfl, like⟩

end File

namespace Session

theorem arrive_ended (session : Session) (place : String) (reached : Option ClusterId) :
    Ended (session.arrive place reached one) (session.arrive place reached other) := by
  cases reached with
  | none => exact ⟨rfl, rfl, like⟩
  | some id =>
    unfold arrive
    dsimp only
    rw [like.clusters]
    split
    · exact ⟨rfl, rfl, like⟩
    · exact ⟨rfl, rfl, like⟩

theorem connectTo_lockstep {session : Session} (crossing : Crossing session.observer) (host : String)
    (port : UInt16) :
    Lockstep session.observer (some (one.world.connecting session.engine host port)) one.ambient other.ambient
      (fun got => got.2.2.ambient) Ended (session.connectTo host port one)
      (session.connectTo host port other) := by
  let message := "Connecting to " ++ endpoint host port ++ " as '" ++ session.user ++ "'"
  let start (scene : Scene World) := scene.log .info .fileSystem message
  have begun (scene : Scene World) : scene.ambient.Tells session.observer [] (start scene).ambient := .log ..
  have told := Scene.tell?_lockstep (show (start one).world.Like (start other).world from like) crossing
    (one.world.connecting session.engine host port)
  rw [connectTo_eq, connectTo_eq, ← like.connecting, ← like.reach?]
  refine .after_silence (begun one).toHears (begun other).toHears ?_
  dsimp only
  generalize (start one).tell? session.observer _ = got at told
  generalize (start other).tell? session.observer _ = got' at told
  obtain ⟨response, after⟩ := got
  obtain ⟨response', after'⟩ := got'
  refine told.lift ?_ ?_ ?_
  · cases response with
    | fail status => exact .refl _ _
    | proceed => exact (session.tells_arrive ..).toHears
  · cases response' with
    | fail status => exact .refl _ _
    | proceed => exact (session.tells_arrive ..).toHears
  · rintro ⟨rfl, worlds⟩
    cases response with
    | fail status => exact ⟨rfl, rfl, worlds⟩
    | proceed => exact arrive_ended worlds session _ _

theorem reach_lockstep (session : Session) (crossing : Crossing session.observer) (endpoint : Endpoint) :
    Lockstep session.observer (one.world.dueConnect? session.engine session.options endpoint) one.ambient other.ambient
      (fun got => got.2.2.ambient) Ended (@reach Memory.engine session endpoint one)
      (@reach Memory.engine session endpoint other) := by
  have arrives (host : String) (port : UInt16) : Lockstep session.observer
      (some (one.world.connecting session.engine host port)) one.ambient other.ambient
      (fun got => got.2.2.ambient) Ended (session.connect host (toString port.toNat) one)
      (session.connect host (toString port.toNat) other) := by
    unfold connect
    rw [port?_toString]
    exact connectTo_lockstep like crossing host port
  unfold reach World.dueConnect? World.dueAt? address? configured?
  cases endpoint with
  | explicit host port =>
    rw [engine_connect]
    exact arrives host port
  | defaultFs =>
    rw [engine_connectDefault]
    dsimp only
    unfold connectDefault
    cases session.options.defaultFs with
    | none => exact .silent (.refl _ _) (.refl _ _) ⟨rfl, rfl, like⟩
    | some url =>
      dsimp only [Option.bind_some]
      cases url.host? with
      | none => exact .silent (.refl _ _) (.refl _ _) ⟨rfl, rfl, like⟩
      | some host => exact arrives host _

theorem openFile_lockstep {session : Session} (crossing : Crossing session.observer) (path : String) :
    Lockstep session.observer (session.dueOpen? one.world) one.ambient other.ambient
      (fun got => got.2.ambient) (fun got got' => got.1 = got'.1 ∧ got.2.world.Like got'.2.world)
      (session.openFile path one) (session.openFile path other) := by
  unfold openFile dueOpen?
  rw [like.clusters]
  cases session.cluster with
  | none => exact .silent (.refl _ _) (.refl _ _) ⟨rfl, like⟩
  | some id =>
    have told := Scene.tell?_lockstep like crossing
      ⟨sessionEvents.read, (other.world.clusters id).name, none, 0⟩
    dsimp only [Option.map_some]
    generalize one.tell? session.observer _ = got at told
    generalize other.tell? session.observer _ = got' at told
    obtain ⟨response, after⟩ := got
    obtain ⟨response', after'⟩ := got'
    cases found : (other.world.clusters id).files.get? path with
    | none =>
      refine told.lift ?_ ?_ ?_
      · cases response with
        | fail status => exact .refl _ _
        | proceed => exact .refl _ _
      · cases response' with
        | fail status => exact .refl _ _
        | proceed => exact .refl _ _
      · rintro ⟨rfl, worlds⟩
        cases response with
        | fail status => exact ⟨rfl, worlds⟩
        | proceed => exact ⟨rfl, worlds⟩
    | some bytes =>
      refine told.lift ?_ ?_ ?_
      · cases response with
        | fail status => exact .refl _ _
        | proceed => exact (Ambient.Tells.log ..).toHears
      · cases response' with
        | fail status => exact .refl _ _
        | proceed => exact (Ambient.Tells.log ..).toHears
      · rintro ⟨rfl, worlds⟩
        cases response with
        | fail status => exact ⟨rfl, worlds⟩
        | proceed => exact ⟨rfl, worlds⟩

end Session
end Memory

namespace Boundary.Caller
open Memory

/-- Two threads with the same slots, in worlds that are alike. -/
structure Alike (one other : Caller engine.World) : Prop where
  slots : one.slots = other.slots
  world : World.Like one.scene.world other.scene.world

/-- Two results of a thread: the same answer, the same thing that was worked on, and threads alike. -/
structure Ended {α σ : Type} (got got' : α × σ × Caller engine.World) : Prop where
  answer : got.1 = got'.1
  held : got.2.1 = got'.2.1
  caller : got.2.2.Alike got'.2.2

/-- Two results of a thread: the same answer, and threads alike. -/
structure Concluded {α : Type} (got got' : α × Caller engine.World) : Prop where
  answer : got.1 = got'.1
  caller : got.2.Alike got'.2

section
variable {one other : Caller engine.World} (alike : one.Alike other)
include alike

theorem record_alike (failure : Failure) : (one.record failure).Alike (other.record failure) := by
  rw [record_eq, record_eq]
  cases failure.error? with
  | none => exact alike
  | some error => exact ⟨congrArg (Slots.withError · error) alike.slots, alike.world⟩

theorem refused_concludes {α : Type} (observer : Option Observer) (failure : Failure) :
    Lockstep observer none one.scene.ambient other.scene.ambient (fun got => got.2.scene.ambient)
      Concluded ((none : Option α), one.record failure) (none, other.record failure) :=
  .silent (tells_record observer one failure).toHears (tells_record observer other failure).toHears
    ⟨rfl, record_alike alike failure⟩

theorem refused_ends {α σ : Type} (observer : Option Observer) (held : σ) (failure : Failure) :
    Lockstep observer none one.scene.ambient other.scene.ambient (fun got => got.2.2.scene.ambient)
      Ended ((none : Option α), held, one.record failure) (none, held, other.record failure) :=
  .silent (tells_record observer one failure).toHears (tells_record observer other failure).toHears
    ⟨rfl, rfl, record_alike alike failure⟩

theorem settle_concluded {α : Type} {result result' : Result α} (same : result = result') :
    Concluded (one.settle result) (other.settle result') := by
  subst same
  match result with
  | .answered (.ok answer) => exact ⟨rfl, alike⟩
  | .answered (.error status) => exact ⟨rfl, record_alike alike (.failed status)⟩
  | .panicked payload => exact ⟨rfl, record_alike alike (.panicked payload)⟩

theorem finish_concluded {α : Type} {reply reply' : Reply α} (same : reply = reply') :
    Concluded (one.finish reply) (other.finish reply') := by
  subst same
  cases reply with
  | answered answer => exact ⟨rfl, alike⟩
  | panicked payload => exact ⟨rfl, record_alike alike (.panicked payload)⟩

theorem accept_concluded {α : Type} (result : Except Fault α) :
    Concluded (one.accept result) (other.accept result) := by
  cases result with
  | ok value => exact ⟨rfl, alike⟩
  | error fault => exact ⟨rfl, record_alike alike (.refused fault)⟩

theorem settled_ended {α : Type} {got got' : Result α × engine.File × Scene engine.World}
    (ended : Memory.Ended got got') : Ended (one.settled got) (other.settled got') := by
  have left : Alike { one with scene := got.2.2 } { other with scene := got'.2.2 } := ⟨alike.slots, ended.world⟩
  have settled := settle_concluded left ended.answer
  exact ⟨settled.answer, congrArg some ended.held, settled.caller⟩

theorem useFile_lockstep {α β : Type} (session : Option engine.Session) {file : Option engine.File}
    (crossing : ∀ held, file = some held → Crossing (File.observer held)) (arguments : Except Fault β)
    {operation : engine.File → β → Scene engine.World → Result α × engine.File × Scene engine.World}
    {due : engine.File → β → Option Event}
    (steps : ∀ held argument (scene scene' : Scene engine.World), World.Like scene.world scene'.world →
      Crossing (File.observer held) → Lockstep (File.observer held) (due held argument) scene.ambient
        scene'.ambient (fun got => got.2.2.ambient) Memory.Ended (operation held argument scene)
        (operation held argument scene')) :
    Lockstep (file.bind File.observer) (dueUse? session file arguments.toOption due) one.scene.ambient
      other.scene.ambient (fun got => got.2.2.scene.ambient) Ended
      (one.useFile session file arguments operation) (other.useFile session file arguments operation) := by
  cases session with
  | none => exact refused_ends alike _ file _
  | some session =>
    cases file with
    | none => exact refused_ends alike _ none _
    | some held =>
      cases arguments with
      | error fault => exact refused_ends alike _ (some held) _
      | ok argument =>
        rw [useFile_ok, useFile_ok]
        apply (steps held argument one.scene other.scene alike.world (crossing held rfl)).lift
        · exact (one.settled_unobserved _ _).1.toHears
        · exact (other.settled_unobserved _ _).1.toHears
        · exact settled_ended alike

theorem close_lockstep (observer : Option Observer) (session : Option engine.Session)
    (file : Option engine.File) :
    Lockstep observer none one.scene.ambient other.scene.ambient (fun got => got.2.2.scene.ambient) Ended
      (one.close session file) (other.close session file) := by
  cases session with
  | none => exact refused_ends alike _ file _
  | some session =>
    cases file with
    | none => exact refused_ends alike _ none _
    | some held => exact .silent (.refl _ _) (.refl _ _) ⟨rfl, rfl, alike⟩

theorem disconnect_lockstep (observer : Option Observer) (session : Option engine.Session) :
    Lockstep observer none one.scene.ambient other.scene.ambient (fun got => got.2.scene.ambient) Concluded
      (one.disconnect session) (other.disconnect session) := by
  cases session with
  | none => exact refused_concludes alike _ _
  | some held =>
    exact .silent (.refl _ _) (.refl _ _) ⟨rfl, alike.slots, alike.world.removeService (Session.engine held)⟩

theorem opening_ended (session : engine.Session) {got got' : Result File × Scene World}
    (answer : got.1 = got'.1) (world : got.2.world.Like got'.2.world)
    (fresh : ∀ file, got.1 = .ok file → file.observer = none) :
    Ended (one.opening session got) (other.opening session got') := by
  obtain ⟨result, scene⟩ := got
  obtain ⟨result', scene'⟩ := got'
  cases answer
  have left : Alike { one with scene } { other with scene := scene' } := ⟨alike.slots, world⟩
  match result with
  | .answered (.ok file) =>
    have adopted := adoptFile_new { one with scene } file (fresh file rfl)
    have adopted' := adoptFile_new { other with scene := scene' } file (fresh file rfl)
    unfold opening
    dsimp only [settle]
    rw [adopted, adopted']
    exact ⟨congrArg (fun slots => some { file with observer := slots.fileObserver }) alike.slots, rfl, left⟩
  | .answered (.error status) => exact ⟨rfl, rfl, record_alike left (.failed status)⟩
  | .panicked payload => exact ⟨rfl, rfl, record_alike left (.panicked payload)⟩

theorem openFile_lockstep {session : Option engine.Session}
    (crossing : ∀ held, session = some held → Crossing (Session.observer held)) (path : Given) :
    Lockstep (session.bind Session.observer) (dueOpen? one.scene.world session path) one.scene.ambient
      other.scene.ambient (fun got => got.2.2.scene.ambient) Ended
      (one.openFile session path) (other.openFile session path) := by
  cases session with
  | none => exact refused_ends alike _ none _
  | some session =>
    cases read : textOf? path with
    | none =>
      simp only [Caller.openFile, dueOpen?, read, requiredText_of_textOf?_none read]
      exact refused_ends alike _ (some session) _
    | some text =>
      have given := requiredText_of_textOf? read "path"
      have fresh (caller : Caller engine.World) (file : File)
          (opened : (Session.openFile session text caller.scene).1 = .ok file) : file.observer = none := by
        obtain ⟨id, content, -, -, rfl⟩ := Session.openFile_ok opened
        rfl
      have opens := Session.openFile_lockstep alike.world (crossing session rfl) text
      rw [one.openFile_given session given, other.openFile_given session given]
      simp only [dueOpen?, read]
      apply opens.lift
      · exact (one.opening_unobserved session _ _ (fresh one)).1.toHears
      · exact (other.opening_unobserved session _ _ (fresh other)).1.toHears
      · rintro ⟨same, worlds⟩
        exact opening_ended alike session same worlds (fresh one)

theorem concluding_concluded {got got' : Result Unit × engine.Session × Scene engine.World}
    (ended : Memory.Ended got got') : Concluded (one.concluding got) (other.concluding got') := by
  obtain ⟨result, session, scene⟩ := got
  obtain ⟨result', session', scene'⟩ := got'
  obtain ⟨rfl, rfl, world⟩ := ended
  have left : Alike { one with scene } { other with scene := scene' } := ⟨alike.slots, world⟩
  match result with
  | .answered (.ok ()) => exact ⟨rfl, left⟩
  | .answered (.error status) =>
    have recorded := record_alike left (.failed status)
    exact ⟨rfl, recorded.slots, recorded.world.removeService session.engine⟩
  | .panicked payload =>
    have released : Alike { one with scene := session.release scene }
        { other with scene := session.release scene' } := ⟨alike.slots, world.removeService session.engine⟩
    exact ⟨rfl, record_alike released (.panicked payload)⟩

theorem connect_lockstep (crossing : Crossing one.slots.sessionObserver) (host : Option String)
    (port : Option UInt16) (user : Option String) (options : Options) :
    Lockstep one.slots.sessionObserver
      (World.dueAt? one.scene.world (World.installed one.scene.world) (addressOf? options host port))
      one.scene.ambient other.scene.ambient (fun got => got.2.scene.ambient) Concluded
      (one.connect (.resolve host port) user options) (other.connect (.resolve host port) user options) := by
  let endpoint := Endpoint.resolve host port
  let id := World.installed one.scene.world
  let session : Session :=
    { engine := id, user := user.getD "", options, observer := one.slots.sessionObserver }
  let note := connectingNote endpoint user
  let served (caller : Caller engine.World) : Scene engine.World :=
    Scene.trace ⟨caller.scene.ambient, World.addService caller.scene.world id⟩ note
  have noted (caller : Caller engine.World) :
      caller.scene.ambient.Hears session.observer [] (served caller).ambient := (Ambient.Tells.trace ..).toHears
  have mine : one.connect endpoint user options =
      one.concluding (@reach engine session endpoint (served one)) := one.connect_eq endpoint user options
  have theirs : other.connect endpoint user options =
      other.concluding (@reach engine session endpoint (served other)) := by
    rw [connect_eq, ← alike.slots, ← alike.world.installed]
  have due : World.dueConnect? (World.addService one.scene.world id) id options endpoint =
      World.dueAt? one.scene.world id (addressOf? options host port) :=
    ((World.Like.setServices one.scene.world id _).dueConnect id options endpoint).trans
      (World.dueConnect?_resolve one.scene.world id options host port)
  have served_alike : (served one).world.Like (served other).world := alike.world.addService id
  have reaches := Session.reach_lockstep served_alike session crossing endpoint
  rw [mine, theirs, ← due]
  refine .after_silence (noted one) (noted other) (reaches.lift ?_ ?_ ?_)
  · exact (one.concluding_unobserved _ _).1.toHears
  · exact (other.concluding_unobserved _ _).1.toHears
  · exact concluding_concluded alike

theorem connectDirect_lockstep (crossing : Crossing one.slots.sessionObserver) (host : Given) (port : UInt16)
    (user : Given) :
    Lockstep one.slots.sessionObserver (dueConnect? one.scene.world host port user) one.scene.ambient
      other.scene.ambient (fun got => got.2.scene.ambient) Concluded
      (one.connectDirect host port user) (other.connectDirect host port user) := by
  unfold connectDirect dueConnect?
  rw [optionalText_eq, optionalText_eq]
  cases optionalOf? host with
  | none => exact refused_concludes alike _ _
  | some host =>
    cases optionalOf? user with
    | none => exact refused_concludes alike _ _
    | some user =>
      exact connect_lockstep alike crossing host (portOverride port) user {}

theorem connectBuilder_lockstep [Formats] (crossing : Crossing one.slots.sessionObserver) (builder : Option Builder) :
    Lockstep one.slots.sessionObserver (dueBuilder? one.scene.world builder) one.scene.ambient
      other.scene.ambient (fun got => got.2.scene.ambient) Concluded
      (one.connectBuilder builder) (other.connectBuilder builder) := by
  cases builder with
  | none => exact refused_concludes alike _ _
  | some builder =>
    let optioned (caller : Caller engine.World) : Caller engine.World :=
      { caller with scene := (caller.scene.optionsOf builder.snapshot).2 }
    have kept (caller : Caller engine.World) : (optioned caller).scene.world = caller.scene.world :=
      world_optionsOf caller.scene builder.snapshot
    have left : (optioned one).Alike (optioned other) := by
      refine ⟨alike.slots, ?_⟩
      rw [kept, kept]
      exact alike.world
    have connects := connect_lockstep left crossing builder.host builder.port builder.user builder.options
    rw [kept] at connects
    exact .after_silence (Scene.tells_optionsOf _ one.scene builder.snapshot).toHears
      (Scene.tells_optionsOf _ other.scene builder.snapshot).toHears connects

theorem loading_concluded [Formats] (tree : Config.FileTree) (path : Config.SearchPath) :
    Concluded (one.loading tree path) (other.loading tree path) := by
  have left : Alike { one with scene := (Builder.load tree path one.scene).2 }
      { other with scene := (Builder.load tree path other.scene).2 } := by
    have kept (scene : Scene engine.World) : (Builder.load tree path scene).2.world = scene.world :=
      (Scene.Quiet.traceAll scene _ (Config.isReport_loadDefaults tree path)).world
    refine ⟨alike.slots, ?_⟩
    rw [kept, kept]
    exact alike.world
  exact finish_concluded left rfl

end
end Boundary.Caller
end DfsClient
