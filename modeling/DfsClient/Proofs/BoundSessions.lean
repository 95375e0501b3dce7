import DfsClient.Formats.Standard
import DfsClient.Proofs.Bindings
import DfsClient.Proofs.CallJournal
import DfsClient.Proofs.Clusters

/-! Sessions that a program holds are connected. Whatever steps it takes, the memory engine is never asked to open
a file with a session that is not bound to a cluster, nor to connect to a port that does not read as one, so that
an open comes down to what the observer replies and what the cluster has at the path. -/

namespace DfsClient
open Boundary Memory

namespace Holdings

variable {held after : Holdings} {thread : Nat} {call : Call} {answer : Answer}

/-- Every session is bound to a cluster that was made. -/
structure Housed (held : Holdings) : Prop where
  charted : held.world.Charted
  bound : held.sessions.Each fun session => ∃ id, session.cluster = some id ∧ id < held.world.clusterCount

/-- Only a connect that went well brings a session, and it is bound to a cluster that its engine knows. -/
theorem Changes.housed (changes : Changes thread held call answer after) (housed : held.Housed) : after.Housed := by
  refine ⟨changes.charted housed.charted, ?_⟩
  rw [changes.clusters_eq.2]
  cases changes with
  | connects asks engine observer bound =>
    refine housed.bound.update _ fun session same => ?_
    cases same
    obtain ⟨id, registered, bound⟩ := bound
    exact ⟨id, bound, housed.charted.made registered⟩
  | connectsNot | disconnects => exact housed.bound.update _ fun _ => nofun
  | _ => exact housed.bound

end Holdings

namespace Client

theorem act_housed [Formats] (client : Client engine) (act : Act) (housed : client.holdings.Housed) :
    (client.act act).2.holdings.Housed := by
  obtain ⟨thread, call, rfl⟩ | ⟨-, edited⟩ := act_edits client act
  · exact (call_changes client thread call).housed housed
  · rw [edited]
    refine ⟨housed.charted.edit act, fun name session there => ?_⟩
    obtain ⟨id, bound, made⟩ := housed.bound name session there
    exact ⟨id, bound, Nat.lt_of_lt_of_le made (World.clusterCount_edit act)⟩

theorem reached_housed [Formats] (tree : Config.FileTree) (environment : Config.Variables) (replies : Replies)
    (history : List Act) : ((start tree environment replies).acts history).2.holdings.Housed :=
  acts_induction act_housed _ history ⟨fun _ _ _ => nofun, fun _ _ => nofun⟩

end Client

namespace Memory

/-- How an open fails with a session that was never connected. -/
def notConnected : Status := .resourceUnavailable "FileSystem is not connected"

/-- How a connect fails to a service that does not read as a port. -/
def invalidPort (service : String) : Status := .invalidArgument ("Invalid port: " ++ service)

/-- From across the boundary, an observer can make an operation fail in one way only. -/
theorem simulated_of_fail {ambient : Ambient} {observer : Option Observer} (crossing : Crossing observer)
    {later : Nat} {event : Event} {status : Status} (failed : ambient.responseTo observer later event = .fail status) :
    status = simulated := by
  cases observer with
  | none => cases failed
  | some one =>
    obtain ⟨monitor, rfl⟩ := crossing one rfl
    unfold Ambient.responseTo Response.ofReply at failed
    dsimp only at failed
    split at failed
    · cases failed
      rfl
    · cases failed

namespace Session

variable {session : Session} {scene : Scene World}

theorem connect_toString (session : Session) (host : String) (port : UInt16) (scene : Scene World) :
    session.connect host (toString port.toNat) scene = session.connectTo host port scene := by
  unfold connect
  rw [port?_toString]

theorem connectTo_not_invalidPort (crossing : Crossing session.observer) (host : String) (port : UInt16)
    (service : String) : (session.connectTo host port scene).1 ≠ .failed (invalidPort service) := by
  intro failed
  rw [connectTo_eq] at failed
  obtain ⟨after, told, -⟩ := (scene.log .info .fileSystem ("Connecting to " ++ endpoint host port ++ " as '" ++
    session.user ++ "'")).tell?_spec session.observer (scene.world.connecting session.engine host port)
  dsimp only at failed
  rw [told] at failed
  cases response : Ambient.responseTo _ session.observer 0 _ with
  | fail status =>
    rw [response] at failed
    cases simulated_of_fail crossing response
    cases failed
  | proceed =>
    rw [response] at failed
    dsimp only [arrive] at failed
    cases reached : scene.world.reach? session.engine host port with
    | none =>
      rw [reached] at failed
      cases failed
    | some id =>
      rw [reached] at failed
      dsimp only at failed
      split at failed
      · cases failed
      · cases failed

theorem connect_not_invalidPort (crossing : Crossing session.observer) (host : String) (port : UInt16)
    (service : String) : (session.connect host (toString port.toNat) scene).1 ≠ .failed (invalidPort service) := by
  rw [connect_toString]
  exact connectTo_not_invalidPort crossing host port service

/-- The default may be unusable, but a port is written down as a port there, too. -/
theorem connectDefault_not_invalidPort (crossing : Crossing session.observer) (service : String) :
    (session.connectDefault scene).1 ≠ .failed (invalidPort service) := by
  have first (message : String) (other : message.toList.head? ≠ some 'I') :
      (.failed (.invalidArgument message) : Result Unit) ≠ .failed (invalidPort service) := by
    intro same
    cases same
    simp [String.toList_append] at other
  unfold connectDefault
  cases session.options.defaultFs with
  | none => exact first _ (by decide)
  | some url =>
    dsimp only
    cases url.host? with
    | none => exact first ("fs.defaultFS has no host: " ++ url.render) (by simp [String.toList_append])
    | some host =>
      exact connect_not_invalidPort crossing host _ service

/-- A session that is bound opens what its cluster has, if the observer lets it. -/
theorem openFile_bound {id : ClusterId} (bound : session.cluster = some id) (path : String) (scene : Scene World) :
    (session.openFile path scene).1 =
      match scene.ambient.responseTo session.observer 0
        ⟨sessionEvents.read, (scene.world.clusters id).name, none, 0⟩ with
      | .fail status => .failed status
      | .proceed =>
        match (scene.world.clusters id).files.get? path with
        | none => .failed (.pathNotFound ("Path not found: " ++ path))
        | some bytes => .ok { cluster := (scene.world.clusters id).name, path, bytes } := by
  obtain ⟨after, told, -⟩ := scene.tell?_spec session.observer
    ⟨sessionEvents.read, (scene.world.clusters id).name, none, 0⟩
  unfold openFile
  rw [bound]
  dsimp only
  rw [told]
  cases scene.ambient.responseTo session.observer 0 _ with
  | fail status => rfl
  | proceed =>
    dsimp only
    cases (scene.world.clusters id).files.get? path with
    | none => rfl
    | some bytes => rfl

theorem openFile_not_unconnected (crossing : Crossing session.observer) {id : ClusterId}
    (bound : session.cluster = some id) (path : String) : (session.openFile path scene).1 ≠ .failed notConnected := by
  rw [openFile_bound bound]
  cases response : Ambient.responseTo _ session.observer 0 _ with
  | fail status =>
    rw [simulated_of_fail crossing response]
    nofun
  | proceed =>
    dsimp only
    cases (scene.world.clusters id).files.get? path with
    | none => nofun
    | some bytes => nofun

end Session

/-- The engine gets past what it looks at first: the port reads as it was written, and a session that is to open
a file is connected. -/
def PastGuards : engine.Exchange → Prop
  | .connect _ _ service result _ =>
    (∃ port : UInt16, service = toString port.toNat ∧ port? service = some port) ∧
      ∀ text, result ≠ .failed (invalidPort text)
  | .connectDefault _ result _ => ∀ text, result ≠ .failed (invalidPort text)
  | .openFile session _ result _ => (Session.cluster session).isSome = true ∧ result ≠ .failed notConnected
  | _ => True

end Memory

namespace Boundary

variable {observer : Option Observer} {journal : List engine.Exchange}

theorem Errand.attempt_past_guards (errand : Errand) {session held : engine.Session} {result : Result Unit}
    {before after : Scene engine.World} (crossing : Crossing (Session.observer session))
    (happens : (errand.attempt session result held).Happens before after) :
    PastGuards (errand.attempt session result held) := by
  have explicit (host : String) (port : UInt16)
      (happens : (Engine.Exchange.connect session host (toString port.toNat) result held).Happens before after) :
      PastGuards (.connect session host (toString port.toNat) result held) := by
    refine ⟨⟨port, rfl, port?_toString port⟩, fun text => ?_⟩
    have came : (Session.connect session host (toString port.toNat) before).1 = result := congrArg Prod.fst happens
    rw [← came]
    exact Session.connect_not_invalidPort crossing host port text
  obtain ⟨host, port, user, options⟩ := errand
  cases host with
  | some host => cases port <;> exact explicit host _ happens
  | none =>
    cases port with
    | some port => exact explicit "" port happens
    | none =>
      intro text
      have came : (Session.connectDefault session before).1 = result := congrArg Prod.fst happens
      rw [← came]
      exact Session.connectDefault_not_invalidPort crossing text

/-- A fresh session has no observer but the one that is attached to it. -/
theorem Establishing.past_guards {errand : Errand} {session : engine.Session} {got : Option engine.Session}
    (establishing : Establishing observer errand.attempt session journal got) (crossing : Crossing observer)
    (fresh : Session.observer session = none)
    (happened : ∀ exchange ∈ journal, ∃ before after, exchange.Happens before after) :
    ∀ exchange ∈ journal, PastGuards exchange := by
  have attached {attached : List engine.Exchange} {reply : Reply Unit} {held : engine.Session}
      (attaching : Attaching session observer attached reply held)
      (happened : ∀ exchange ∈ attached, ∃ before after, exchange.Happens before after) :
      (∀ exchange ∈ attached, PastGuards exchange) ∧ Crossing (Session.observer held) := by
    cases attaching with
    | nobody =>
      refine ⟨fun _ => nofun, ?_⟩
      rw [fresh]
      exact crossing
    | somebody listening reply held =>
      obtain ⟨before, after, happens⟩ := happened _ List.mem_cons_self
      have same : { session with observer := some listening : Session } = held :=
        congrArg (fun got : Reply Unit × engine.Session × Scene engine.World => got.2.1) happens
      refine ⟨fun exchange member => ?_, ?_⟩
      · rw [List.mem_singleton.mp member]
        trivial
      · rw [← same]
        exact crossing
  intro exchange member
  cases establishing with
  | unattached attaching =>
    obtain ⟨past, -⟩ := attached attaching fun exchange member => happened exchange (List.mem_append_left _ member)
    obtain earlier | last := List.mem_append.mp member
    · exact past exchange earlier
    · rw [List.mem_singleton.mp last]
      trivial
  | attempted attaching concluding =>
    obtain ⟨past, heard⟩ := attached attaching fun exchange member => happened exchange (List.mem_append_left _ member)
    obtain earlier | later := List.mem_append.mp member
    · exact past exchange earlier
    · obtain rfl | last := List.mem_cons.mp later
      · obtain ⟨before, after, happens⟩ := happened _ member
        exact errand.attempt_past_guards heard happens
      · cases concluding with
        | made => cases last
        | failed | lost =>
          rw [List.mem_singleton.mp last]
          trivial

theorem Connecting.past_guards {errand : Errand} {user : String} {options : Options} {got : Option engine.Session}
    (connecting : Connecting observer errand.attempt user options journal got) (crossing : Crossing observer)
    (happened : ∀ exchange ∈ journal, ∃ before after, exchange.Happens before after) :
    ∀ exchange ∈ journal, PastGuards exchange := by
  have creates {made : List engine.Exchange} {reply : Reply (Option engine.Session)}
      (creating : Creating engine user options made reply) : ∀ exchange ∈ made, PastGuards exchange := by
    intro exchange member
    cases creating with
    | noService =>
      rw [List.mem_singleton.mp member]
      trivial
    | asked =>
      obtain rfl | last := List.mem_cons.mp member
      · trivial
      · rw [List.mem_singleton.mp last]
        trivial
  cases connecting with
  | uncreated creating without => exact creates creating
  | @created made rest session _ creating establishing =>
    have fresh : Session.observer session = none := by
      cases creating with
      | asked service =>
        obtain ⟨before, after, happens⟩ := happened _
          (List.mem_append_left rest (List.mem_cons_of_mem _ List.mem_cons_self))
        cases happens
        rfl
    intro exchange member
    obtain earlier | later := List.mem_append.mp member
    · exact creates creating exchange earlier
    · exact establishing.past_guards crossing fresh
        (fun exchange member => happened exchange (List.mem_append_right _ member)) exchange later

theorem Opening.past_guards {session held : engine.Session} {path : String} {got : Option engine.File} {id : ClusterId}
    (opening : Opening observer session path held journal got) (crossing : Crossing (Session.observer session))
    (bound : Session.cluster session = some id)
    (happened : ∀ exchange ∈ journal, ∃ before after, exchange.Happens before after) :
    ∀ exchange ∈ journal, PastGuards exchange := by
  have opens {result : Result engine.File} (member : .openFile session path result held ∈ journal) :
      PastGuards (.openFile session path result held) := by
    obtain ⟨before, after, happens⟩ := happened _ member
    have came : (Session.openFile session path before).1 = result := congrArg Prod.fst happens
    refine ⟨Option.isSome_of_eq_some bound, ?_⟩
    rw [← came]
    exact Session.openFile_not_unconnected crossing bound path
  intro exchange member
  cases opening with
  | unopened | unobserved =>
    obtain rfl := List.mem_singleton.mp member
    exact opens member
  | observed =>
    obtain rfl | last := List.mem_cons.mp member
    · exact opens member
    · rw [List.mem_singleton.mp last]
      trivial
  | lost =>
    obtain rfl | later := List.mem_cons.mp member
    · exact opens member
    · obtain rfl | last := List.mem_cons.mp later
      · trivial
      · rw [List.mem_singleton.mp last]
        trivial

end Boundary

namespace Client

variable {client : Client engine} {thread : Nat} {call : Call}

section
variable [Formats]

theorem connect_past_guards (sound : client.holdings.Sound) {wanted : Except Fault Errand}
    (errand : client.errand? call = some wanted) : ∀ exchange ∈ client.journal thread call, PastGuards exchange := by
  obtain ⟨into, got, caller, -, acts, -⟩ := @connect_returns _ client thread call _ wanted errand
  intro exchange member
  obtain ⟨arguments, -, way, serves⟩ := acts.of_mem member
  exact Connecting.past_guards way (sound.sessionObserver thread)
    (fun _ member => serves.trail.happens member) exchange member

theorem openFile_past_guards (sound : client.holdings.Sound) {session into : Handle} {path : Given} :
    ∀ exchange ∈ client.journal thread (.openFile session path into), PastGuards exchange := by
  obtain ⟨got, caller, acts, -⟩ := openFile_returns client thread session path into
  intro exchange member
  obtain ⟨given, passes, ⟨left, opening, -⟩, serves⟩ := acts.of_mem member
  have there := session_of_openable passes
  have good : Session.Sound given.1 := sound.sessions.find there
  obtain ⟨id, bound⟩ := Option.isSome_iff_exists.mp good.bound
  exact opening.past_guards good.observer bound (fun _ member => serves.trail.happens member) exchange member

/-- Nothing is looked at first where a file is used. -/
theorem uses_past_guards {α β : Type} {session file : Handle} {arguments : Except Fault β}
    {exchange : engine.File → β → Result α → engine.File → engine.Exchange} {present : Option α → Answer}
    (uses : Uses client thread call session file arguments exchange present)
    (plain : ∀ held argument result left, PastGuards (exchange held argument result left)) :
    ∀ exchange ∈ client.journal thread call, PastGuards exchange := by
  obtain ⟨got, caller, acts, -⟩ := uses
  intro exchange member
  obtain ⟨given, -, ⟨result, left, asked, -⟩, -⟩ := acts.of_mem member
  rw [asked] at member
  rw [List.mem_singleton.mp member]
  exact plain ..

theorem call_past_guards (sound : client.holdings.Sound) (thread : Nat) (call : Call) :
    ∀ exchange ∈ client.journal thread call, PastGuards exchange := by
  intro exchange member
  have asks : call.asks = true := asks_of_mem member
  cases call with
  | connect | connectBuilder => exact connect_past_guards sound rfl exchange member
  | openFile => exact openFile_past_guards sound exchange member
  | disconnect session =>
    obtain ⟨got, caller, acts, -⟩ := disconnect_returns client thread session
    obtain ⟨held, -, ⟨reply, asked, -⟩, -⟩ := acts.of_mem member
    rw [asked] at member
    rw [List.mem_singleton.mp member]
    trivial
  | closeFile session file =>
    obtain ⟨got, caller, acts, -⟩ := closeFile_returns client thread session file
    obtain ⟨held, -, ⟨⟨reply, asked, -⟩, -⟩, -⟩ := acts.of_mem member
    rw [asked] at member
    rw [List.mem_singleton.mp member]
    trivial
  | read => exact uses_past_guards (read_returns ..) (fun _ _ _ _ => trivial) exchange member
  | readAt => exact uses_past_guards (readAt_returns ..) (fun _ _ _ _ => trivial) exchange member
  | seek => exact uses_past_guards (seek_returns ..) (fun _ _ _ _ => trivial) exchange member
  | tell => exact uses_past_guards (tell_returns ..) (fun _ _ _ _ => trivial) exchange member
  | cancel => exact uses_past_guards (cancel_returns ..) (fun _ _ _ _ => trivial) exchange member
  | _ => cases asks

end

/-- How an open ends that is not refused, as far as the observer and the cluster decide it. -/
def OpenEnds (text : String) (response : Response) (content? : Option (List UInt8)) (answer : Answer)
    (error : LastError) : Prop :=
  match response, content? with
  | .fail _, _ => answer = .handle false ∧ error = simulatedError
  | .proceed, none => answer = .handle false ∧ error = (38, "Path not found: " ++ text)
  | .proceed, some _ => answer = .handle true

theorem error?_pathNotFound (text : String) :
    (Failure.failed (.pathNotFound ("Path not found: " ++ text))).error? =
      some (38, "Path not found: " ++ text) := by
  have named : "Path not found: " ++ text ≠ "" := by simp
  exact congrArg (fun message => some (38, message)) (if_neg named)

theorem open_ends [Formats] {name text : String} {session : Session} {id : ClusterId} {path : Given}
    (there : client.sessions.get? name = some session) (bound : session.cluster = some id)
    (crossing : Crossing session.observer) (given : requiredText "path" path = .ok text) (thread : Nat) (into : Handle) :
    let (answer, after) := client.call thread (.openFile (some name) path into)
    OpenEnds text
      (client.scene.ambient.responseTo session.observer 0
        ⟨sessionEvents.read, (client.scene.world.clusters id).name, none, 0⟩)
      ((client.scene.world.clusters id).files.get? text) answer (after.threads thread).lastError := by
  let caller := client.caller thread
  have opens : client.call thread (.openFile (some name) path into) = client.opened thread (some name) into
      (caller.opening session (Session.openFile session text client.scene)) :=
    congrArg (client.opened thread (some name) into)
      ((congrArg (caller.openFile · path) there).trans (caller.openFile_given session given))
  have error (got : Option engine.File × Option engine.Session × Caller engine.World) :
      ((client.opened thread (some name) into got).2.threads thread).lastError = got.2.2.slots.lastError :=
    congrArg (fun caller => caller.slots.lastError) (caller_resume_same client thread got.2.2)
  have came := Session.openFile_bound bound text client.scene
  have failed {got : Result File × Scene engine.World} {status : Status} {left : LastError}
      (failed : got.1 = .failed status) (leaves : (Failure.failed status).error? = some left) :
      Answer.handle (caller.opening session got).1.isSome = .handle false ∧
        (caller.opening session got).2.2.slots.lastError = left := by
    obtain ⟨result, scene⟩ := got
    cases failed
    refine ⟨rfl, (Caller.lastError_record _ _).trans ?_⟩
    rw [leaves]
    rfl
  rw [opens]
  dsimp only
  rw [error]
  cases response : client.scene.ambient.responseTo session.observer 0
    ⟨sessionEvents.read, (client.scene.world.clusters id).name, none, 0⟩ with
  | fail status =>
    rw [response, simulated_of_fail crossing response] at came
    exact failed came rfl
  | proceed =>
    rw [response] at came
    cases content : (client.scene.world.clusters id).files.get? text with
    | none =>
      rw [content] at came
      exact failed came (error?_pathNotFound text)
    | some bytes =>
      rw [content] at came
      exact congrArg (fun file : Option engine.File => Answer.handle file.isSome) (Caller.opening_ok came rfl)

/-- In whatever state a program brings itself, each session that it holds is bound to a cluster. The engine is never
asked to open a file with a session that is not connected, nor to connect to a port that does not read as the port
that was meant. So an open fails if the observer has it fail, or else if the cluster has no file at just that path,
and in no other case. -/
theorem live_sessions_are_bound [Formats] (tree : Config.FileTree) (environment : Config.Variables) (replies : Replies)
    (history : List Act) :
    let client := ((start tree environment replies).acts history).2
    (∀ name, ∀ session : Session, client.sessions.get? name = some session →
      ∃ id, session.cluster = some id ∧ id < client.scene.world.clusterCount) ∧
    (∀ thread call, ∀ exchange ∈ client.journal thread call, PastGuards exchange) ∧
    ∀ thread name into bytes text, ∀ session : Session, client.sessions.get? name = some session →
      Text.decode? (Text.beforeNul bytes) = some text →
      ∃ id, session.cluster = some id ∧
        let cluster := client.scene.world.clusters id
        let (answer, after) := client.call thread (.openFile (some name) (some bytes) into)
        OpenEnds text (client.scene.ambient.responseTo session.observer 0 ⟨sessionEvents.read, cluster.name, none, 0⟩)
          (cluster.files.get? text) answer (after.threads thread).lastError := by
  intro client
  have sound : client.holdings.Sound := reached_sound tree environment replies history
  have housed : client.holdings.Housed := reached_housed tree environment replies history
  refine ⟨fun name session there => housed.bound name session there,
    fun thread call => call_past_guards sound thread call, fun thread name into bytes text session there decoded => ?_⟩
  obtain ⟨id, bound, -⟩ := housed.bound name session there
  have given : requiredText "path" (some bytes) = .ok text := by
    unfold requiredText
    dsimp only
    rw [decoded]
  exact ⟨id, bound, open_ends there bound (sound.sessions name session there).observer given thread into⟩

open scoped Formats.Standard

/-- A file is put into a cluster, a session connects to it, and then another thread opens the file. -/
theorem connected_session_opens :
    let client := ((start ⟨fun _ => .missing⟩ {} fun _ _ _ => 0).acts
      [.addCluster 0 "" 8020 "c", .putFile 0 "/a" ⟨[104], by decide⟩, .call 0 (.connect none 8020 none (some "s"))]).2
    let session : Session := { engine := 0, user := "", options := {}, cluster := some 0 }
    client.sessions.get? "s" = some session ∧ Text.decode? (Text.beforeNul [47, 97]) = some "/a" ∧
      (client.call 1 (.openFile (some "s") (some [47, 97]) (some "f"))).1 = .handle true := by
  intro client session
  have there : client.sessions.get? "s" = some session := rfl
  have decoded : Text.decode? (Text.beforeNul [47, 97]) = some "/a" :=
    Text.decode?_eq_some_iff.mpr rfl
  obtain ⟨-, -, opens⟩ := live_sessions_are_bound ⟨fun _ => .missing⟩ {} (fun _ _ _ => 0)
    [.addCluster 0 "" 8020 "c", .putFile 0 "/a" ⟨[104], by decide⟩, .call 0 (.connect none 8020 none (some "s"))]
  obtain ⟨id, bound, ends⟩ := opens 1 "s" (some "f") [47, 97] "/a" session there decoded
  cases bound
  exact ⟨there, decoded, ends⟩

end Client
end DfsClient
