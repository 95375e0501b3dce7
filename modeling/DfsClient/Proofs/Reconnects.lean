import DfsClient.Proofs.Blindness
import DfsClient.Proofs.BoundSessions
import DfsClient.Proofs.IntegerLookup

/-! Sessions that connect again. An attempt ends at the first thing that is in its way, and then the session is as it
was and goes on as if there had been no attempt. With nothing in its way, the session is bound to the cluster that it
looked up, whatever its observer did meanwhile, until it connects again. -/

namespace DfsClient
open Boundary

namespace Text

/-- Digits behind at most one plus, and the number that they denote. -/
def IsUnsigned (cs : List Char) (n : Nat) : Prop :=
  ∃ digits, AreDigits digits ∧ decimal digits = n ∧ (cs = digits ∨ cs = '+' :: digits)

theorem unsigned?_eq_some_iff {cs : List Char} {n : Nat} : unsigned? cs = some n ↔ IsUnsigned cs n := by
  constructor
  · intro read
    unfold unsigned? at read
    split at read
    next digits =>
      obtain ⟨valid, value⟩ := natural?_eq_some_iff.mp read
      exact ⟨digits, valid, value, .inr rfl⟩
    next =>
      obtain ⟨valid, value⟩ := natural?_eq_some_iff.mp read
      exact ⟨cs, valid, value, .inl rfl⟩
  · rintro ⟨digits, valid, value, same | rfl⟩
    · have read := natural?_eq_some_iff.mpr ⟨valid, value⟩
      unfold unsigned?
      split
      next rest =>
        subst same
        exact absurd (valid.2 '+' List.mem_cons_self) (by decide)
      next =>
        rw [same]
        exact read
    · exact natural?_eq_some_iff.mpr ⟨valid, value⟩

end Text

namespace Ambient

/-- Surroundings in which handlers were told of so many more events. -/
def passed (ambient : Ambient) (events : Nat) : Ambient := { ambient with told := ambient.told + events }

/-- Handlers will reply in the other surroundings as they will in these. -/
def RepliesAs (one other : Ambient) : Prop :=
  ∀ later, other.replies (other.told + later) = one.replies (one.told + later)

theorem RepliesAs.refl (ambient : Ambient) : ambient.RepliesAs ambient := fun _ => rfl

theorem RepliesAs.trans {one other third : Ambient} (first : one.RepliesAs other) (second : other.RepliesAs third) :
    one.RepliesAs third := fun later => (second later).trans (first later)

theorem RepliesAs.passed {one other : Ambient} (alike : one.RepliesAs other) (events : Nat) :
    (one.passed events).RepliesAs (other.passed events) := fun later => by
  have same := alike (events + later)
  rw [← Nat.add_assoc, ← Nat.add_assoc] at same
  exact same

theorem repliesAs_log (ambient : Ambient) (level : Log.Level) (component : Log.Component) (message : String) :
    ambient.RepliesAs (ambient.log level component message) := fun later => by
  obtain ⟨replies, told⟩ := ambient.log_keeps level component message
  rw [replies, told]

/-- An observer is told of one event, and only handlers are counted. -/
theorem repliesAs_tell? (ambient : Ambient) (observer : Option Observer) (event : Event) :
    ∃ heard ≤ 1, (ambient.passed heard).RepliesAs (ambient.tell? observer event).2 :=
  match observer with
  | none => ⟨0, Nat.zero_le _, .refl _⟩
  | some (.embedded _ _) => ⟨0, Nat.zero_le _, fun _ => rfl⟩
  | some (.handler _) => ⟨1, Nat.le_refl _, fun _ => rfl⟩

/-- Where handlers reply alike, they go on to do so. -/
theorem RepliesAs.steady : Steady RepliesAs where
  note note _ one other twins := by
    have alike := twins_ambient.mp twins
    exact twins_ambient.mpr alike
  request request one other twins := by
    have alike := twins_ambient.mp twins
    exact twins_ambient.mpr alike
  log level component message one other twins := by
    have alike := twins_ambient.mp twins
    have kept (ambient : Ambient) := ambient.log_keeps level component message
    refine twins_ambient.mpr fun later => ?_
    rw [(kept one).1, (kept one).2, (kept other).1, (kept other).2]
    exact alike later
  tell observer event one other twins := by
    have alike := twins_ambient.mp twins
    match observer with
    | none => exact twins.pair _
    | some (.embedded tag response) => exact ⟨(other.tell? (some (.embedded tag response)) event).2, alike, rfl⟩
    | some (.handler monitor) =>
      refine ⟨(other.tell? (some (.handler monitor)) event).2, alike.passed 1, ?_⟩
      have reply := congrFun (congrFun (alike 0) monitor) event.deliver
      exact congrArg (fun reply => (Response.ofReply reply, _)) reply

end Ambient

namespace Memory

/-- A service reads as a port if it is an unsigned number of sixteen bits, blanks around it aside. -/
theorem port?_eq_some_iff {service : String} {port : UInt16} :
    port? service = some port ↔ Text.IsUnsigned (Text.trim service).toList port.toNat := by
  rw [← Text.unsigned?_eq_some_iff]
  unfold port?
  cases Text.unsigned? (Text.trim service).toList with
  | none => exact iff_of_false nofun nofun
  | some n =>
    have bound := port.toNat_lt
    dsimp only
    split
    next fits =>
      rw [Option.some_inj, Option.some_inj, ← UInt16.toNat_inj, UInt16.toNat_ofNat']
      omega
    next wide =>
      refine iff_of_false nofun fun same => ?_
      cases same
      omega

/-- A way to connect: to a host and a service as they are given, or to the configured default. -/
inductive Attempt where
  | explicit (host service : String)
  | toDefault

/-- What comes of telling an observer of an event: its response, and the surroundings as it leaves them. -/
abbrev Hearing := Event → Scene World → Response × Scene World

namespace Session

/-- A session tells its observer, if it has one. -/
def hears (session : Session) : Hearing := fun event scene => scene.tell? session.observer event

/-- What comes of announcing a connect to an address. -/
def announced (session : Session) (hear : Hearing) (host : String) (port : UInt16) (scene : Scene World) :
    Response × Scene World :=
  hear (scene.world.connecting session.engine host port)
    (scene.log .info .fileSystem ("Connecting to " ++ endpoint host port ++ " as '" ++ session.user ++ "'"))

/-- A session after an attempt that ended so. -/
def ended (session : Session) : Except Status ClusterId → Session
  | .error _ => session
  | .ok id => { session with cluster := some id }

end Session

namespace Attempt

def connect (attempt : Attempt) (session : Session) (scene : Scene World) : Result Unit × Session × Scene World :=
  match attempt with
  | explicit host service => session.connect host service scene
  | toDefault => session.connectDefault scene

/-- The address that an attempt is for, or why there is none. -/
def address (options : Options) : Attempt → Except Status (String × UInt16)
  | explicit host service =>
    match port? service with
    | none => .error (invalidPort service)
    | some port => .ok (host, port)
  | toDefault =>
    match options.defaultFs with
    | none => .error (.invalidArgument "fs.defaultFS is not configured")
    | some url =>
      match url.host? with
      | none => .error (.invalidArgument ("fs.defaultFS has no host: " ++ url.render))
      | some host => .ok (host, url.port?.getD defaultPort)

/-- An attempt with an observer that may do anything once it is told. -/
def through (attempt : Attempt) (hear : Hearing) (session : Session) (scene : Scene World) :
    Result Unit × Session × Scene World :=
  match attempt.address session.options with
  | .error status => (.failed status, session, scene)
  | .ok (host, port) =>
    match session.announced hear host port scene with
    | (.fail status, after) => (.failed status, session, after)
    | (.proceed, after) =>
      session.arrive (endpoint host port) (scene.world.reach? session.engine host port) after

theorem connect_eq (attempt : Attempt) (session : Session) (scene : Scene World) :
    attempt.connect session scene = attempt.through session.hears session scene := by
  cases attempt with
  | explicit host service =>
    unfold connect through address Session.connect
    dsimp only
    cases port? service with
    | none => rfl
    | some port => exact session.connectTo_eq host port scene
  | toDefault =>
    unfold connect through address Session.connectDefault
    dsimp only
    cases session.options.defaultFs with
    | none => rfl
    | some url =>
      dsimp only
      cases url.host? with
      | none => rfl
      | some host =>
        dsimp only
        rw [Session.connect_toString]
        exact session.connectTo_eq host _ scene

/-- How an attempt ends: with the first thing that is in its way, or with the cluster that was registered when it was
looked up. Whether the cluster denies the user is asked after the observer was told. -/
inductive Ends (hear : Hearing) (session : Session) (scene : Scene World) (attempt : Attempt) :
    Except Status ClusterId → Prop
  | unaddressed {status : Status} (nowhere : attempt.address session.options = .error status) :
      Ends hear session scene attempt (.error status)
  | stopped {host : String} {port : UInt16} {status : Status}
      (address : attempt.address session.options = .ok (host, port))
      (response : (session.announced hear host port scene).1 = .fail status) :
      Ends hear session scene attempt (.error status)
  | vacant {host : String} {port : UInt16} (address : attempt.address session.options = .ok (host, port))
      (response : (session.announced hear host port scene).1 = .proceed)
      (unregistered : scene.world.reach? session.engine host port = none) :
      Ends hear session scene attempt (.error (.resourceUnavailable ("Unable to connect to " ++ endpoint host port)))
  | denied {host : String} {port : UInt16} {id : ClusterId}
      (address : attempt.address session.options = .ok (host, port))
      (response : (session.announced hear host port scene).1 = .proceed)
      (registered : scene.world.reach? session.engine host port = some id)
      (denies : ((session.announced hear host port scene).2.world.clusters id).denies session.user = true) :
      Ends hear session scene attempt (.error (.permissionDenied ("Permission denied: user=" ++ session.user)))
  | bound {host : String} {port : UInt16} {id : ClusterId}
      (address : attempt.address session.options = .ok (host, port))
      (response : (session.announced hear host port scene).1 = .proceed)
      (registered : scene.world.reach? session.engine host port = some id)
      (admits : ((session.announced hear host port scene).2.world.clusters id).denies session.user = false) :
      Ends hear session scene attempt (.ok id)

variable {attempt : Attempt} {hear : Hearing} {session : Session} {scene : Scene World}
  {ending : Except Status ClusterId}

theorem exists_ending (attempt : Attempt) (hear : Hearing) (session : Session) (scene : Scene World) :
    ∃ ending, attempt.Ends hear session scene ending := by
  cases address : attempt.address session.options with
  | error status => exact ⟨_, .unaddressed address⟩
  | ok place =>
    obtain ⟨host, port⟩ := place
    cases response : (session.announced hear host port scene).1 with
    | fail status => exact ⟨_, .stopped address response⟩
    | proceed =>
      cases registered : scene.world.reach? session.engine host port with
      | none => exact ⟨_, .vacant address response registered⟩
      | some id =>
        cases denies : ((session.announced hear host port scene).2.world.clusters id).denies session.user with
        | true => exact ⟨_, .denied address response registered denies⟩
        | false => exact ⟨_, .bound address response registered denies⟩

/-- An attempt for an address turns on the response to its announcement. -/
theorem through_address {host : String} {port : UInt16} (address : attempt.address session.options = .ok (host, port)) :
    attempt.through hear session scene =
      match (session.announced hear host port scene).1 with
      | .fail status => (.failed status, session, (session.announced hear host port scene).2)
      | .proceed =>
        session.arrive (endpoint host port) (scene.world.reach? session.engine host port)
          (session.announced hear host port scene).2 := by
  unfold through
  rw [address]
  dsimp only
  generalize session.announced hear host port scene = heard
  obtain ⟨response, after⟩ := heard
  cases response <;> rfl

/-- An attempt is answered as it ends, and no session is bound by halves. -/
theorem Ends.answered (ends : attempt.Ends hear session scene ending) :
    ∃ after, attempt.through hear session scene =
      (.answered (ending.map fun _ => ()), session.ended ending, after) := by
  cases ends with
  | unaddressed nowhere =>
    unfold through
    rw [nowhere]
    exact ⟨_, rfl⟩
  | stopped address response =>
    rw [through_address address, response]
    exact ⟨_, rfl⟩
  | vacant address response unregistered =>
    rw [through_address address, response, unregistered]
    exact ⟨_, rfl⟩
  | denied address response registered denies =>
    rw [through_address address, response, registered]
    dsimp only [Session.arrive]
    rw [if_pos denies]
    exact ⟨_, rfl⟩
  | bound address response registered admits =>
    rw [through_address address, response, registered]
    dsimp only [Session.arrive]
    rw [if_neg (Bool.not_eq_true _ ▸ admits)]
    exact ⟨_, rfl⟩

/-- However it ends, an attempt leaves the world alone, and handlers are told of one event at most. -/
theorem connect_leaves (attempt : Attempt) (session : Session) (scene : Scene World) :
    (attempt.connect session scene).2.2.world = scene.world ∧
      ∃ heard ≤ 1, (scene.ambient.passed heard).RepliesAs (attempt.connect session scene).2.2.ambient := by
  rw [connect_eq]
  cases address : attempt.address session.options with
  | error status =>
    unfold through
    rw [address]
    exact ⟨rfl, 0, Nat.zero_le _, .refl _⟩
  | ok place =>
    obtain ⟨host, port⟩ := place
    let message := "Connecting to " ++ endpoint host port ++ " as '" ++ session.user ++ "'"
    let event := scene.world.connecting session.engine host port
    have logged := scene.ambient.repliesAs_log .info .fileSystem message
    obtain ⟨heard, once, told⟩ := (scene.log .info .fileSystem message).ambient.repliesAs_tell? session.observer event
    have announced := (logged.passed heard).trans told
    rw [through_address address]
    cases (session.announced session.hears host port scene).1 with
    | fail status => exact ⟨rfl, heard, once, announced⟩
    | proceed =>
      dsimp only
      cases scene.world.reach? session.engine host port with
      | none => exact ⟨rfl, heard, once, announced.trans (Ambient.repliesAs_log _ _ _ _)⟩
      | some id =>
        dsimp only [Session.arrive]
        split
        · exact ⟨rfl, heard, once, announced⟩
        · exact ⟨rfl, heard, once, announced⟩

end Attempt

/-- What may come next to a session. Meanwhile others may change the world and have handlers told of events. -/
inductive Use where
  | observe (observer : Observer)
  | attempt (attempt : Attempt)
  | openFile (path : String)
  | meanwhile (change : World → World) (events : Nat)

/-- What a use of a session is answered. -/
inductive Upshot where
  | nothing
  | connected (result : Result Unit)
  | opened (result : Result File)

/-- What a cluster has at a path, unless an observer has the open fail. -/
def Cluster.serve (cluster : Cluster) (response : Response) (path : String) : Result File :=
  match response with
  | .fail status => .failed status
  | .proceed =>
    match cluster.files.get? path with
    | none => .failed (.pathNotFound ("Path not found: " ++ path))
    | some bytes => .ok { cluster := cluster.name, path, bytes }

namespace Session

def use (session : Session) (use : Use) (scene : Scene World) : Upshot × Session × Scene World :=
  match use with
  | .observe observer => (.nothing, { session with observer := some observer }, scene)
  | .attempt attempt =>
    let (result, session, scene) := attempt.connect session scene
    (.connected result, session, scene)
  | .openFile path =>
    let (result, scene) := session.openFile path scene
    (.opened result, session, scene)
  | .meanwhile change events => (.nothing, session, ⟨scene.ambient.passed events, change scene.world⟩)

def uses (session : Session) : List Use → Scene World → List Upshot × Session × Scene World
  | [], scene => ([], session, scene)
  | first :: rest, scene =>
    let (upshot, session, scene) := session.use first scene
    let (upshots, session, scene) := session.uses rest scene
    (upshot :: upshots, session, scene)

open Ambient (RepliesAs)

theorem connect_repliesAs (session : Session) (attempt : Attempt) :
    Carries RepliesAs fun scene => attempt.connect session scene := by
  cases attempt with
  | explicit host service => exact connect_carries RepliesAs.steady session host service
  | toDefault => exact connectDefault_carries RepliesAs.steady session

/-- A use of a session is the same in worlds that are the same, where handlers reply alike. -/
theorem use_repliesAs (session : Session) (use : Use) : Carries RepliesAs fun scene => session.use use scene := by
  intro scene scene' twins
  cases use with
  | observe observer => exact (twins.pair _).pair _
  | attempt attempt =>
    have made := session.connect_repliesAs attempt twins
    dsimp only [Session.use] at made ⊢
    exact made.map Upshot.connected
  | openFile path =>
    have opened := openFile_carries RepliesAs.steady session path twins
    dsimp only [Session.use] at opened ⊢
    exact (opened.map Upshot.opened).beside session
  | meanwhile change events =>
    obtain ⟨ambient', alike, rfl⟩ := twins
    exact ⟨ambient'.passed events, alike.passed events, rfl⟩

/-- And so is a course of uses. -/
theorem uses_repliesAs (session : Session) (course : List Use) :
    Carries RepliesAs fun scene => session.uses course scene := by
  induction course generalizing session with
  | nil => exact fun _ _ twins => (twins.pair _).pair _
  | cons first rest ih =>
    intro scene scene' twins
    obtain ⟨upshot, left⟩ := (session.use_repliesAs first twins).split
    obtain ⟨held, scenes⟩ := left.split
    have later := ih (session.use first scene).2.1 scenes
    dsimp only [uses] at later ⊢
    rw [upshot, held]
    exact later.map ((session.use first scene).1 :: ·)

/-- A session is bound to its cluster until it connects again. -/
theorem use_bound {session : Session} {id : ClusterId} (bound : session.cluster = some id) (use : Use)
    (scene : Scene World) (unconnected : (session.use use scene).1 ≠ .connected (.ok ())) :
    (session.use use scene).2.1.cluster = some id := by
  cases use with
  | attempt attempt =>
    obtain ⟨ending, ends⟩ := attempt.exists_ending session.hears session scene
    obtain ⟨after, came⟩ := ends.answered
    dsimp only [Session.use] at unconnected ⊢
    rw [Attempt.connect_eq, came] at unconnected ⊢
    cases ending with
    | error status => exact bound
    | ok id => exact absurd rfl unconnected
  | observe observer => exact bound
  | openFile path => exact bound
  | meanwhile change events => exact bound

theorem uses_bound {session : Session} {id : ClusterId} (bound : session.cluster = some id) (course : List Use)
    (scene : Scene World) (unconnected : .connected (.ok ()) ∉ (session.uses course scene).1) :
    (session.uses course scene).2.1.cluster = some id := by
  induction course generalizing session scene with
  | nil => exact bound
  | cons first rest ih =>
    obtain ⟨now, later⟩ := not_or.mp (mt List.mem_cons.mpr unconnected)
    exact ih (use_bound bound first scene (Ne.symm now)) _ later

theorem openFile_serves {session : Session} {id : ClusterId} (bound : session.cluster = some id) (path : String)
    (scene : Scene World) :
    (session.openFile path scene).1 = (scene.world.clusters id).serve
      (scene.ambient.responseTo session.observer 0 ⟨sessionEvents.read, (scene.world.clusters id).name, none, 0⟩) path :=
  openFile_bound bound path scene

/-- An attempt to connect, to an address as it is given or to the default, ends in one way: with the first thing that
is in its way or with the cluster that was registered when it was looked up, whatever the observer then does. A session
that fails is as it was, and any course of uses comes to the same as if there had been no attempt, but that handlers
were told of one event more at most. A session that succeeds opens what that cluster has until it connects again. -/
theorem failed_reconnect_keeps_cluster (session : Session) (attempt : Attempt) (scene : Scene World) :
    (∀ service port, port? service = some port ↔ Text.IsUnsigned (Text.trim service).toList port.toNat) ∧
    attempt.connect session scene = attempt.through session.hears session scene ∧
    (∀ hear, ∃ ending, attempt.Ends hear session scene ending) ∧
    (∀ hear ending, attempt.Ends hear session scene ending → ∃ after,
      attempt.through hear session scene = (.answered (ending.map fun _ => ()), session.ended ending, after)) ∧
    (∀ status, attempt.Ends session.hears session scene (.error status) →
      let (_, after, later) := attempt.connect session scene
      ∃ heard ≤ 1, ∀ other : Scene World, other.world = scene.world →
        (scene.ambient.passed heard).RepliesAs other.ambient → ∀ course,
          (after.uses course later).1 = (session.uses course other).1) ∧
    ∀ hear id, attempt.Ends hear session scene (.ok id) → ∀ course now,
      let (upshots, held, _) := (attempt.through hear session scene).2.1.uses course now
      .connected (.ok ()) ∉ upshots →
        held.cluster = some id ∧ ∀ path (later : Scene World), (held.openFile path later).1 =
          (later.world.clusters id).serve (later.ambient.responseTo held.observer 0
            ⟨sessionEvents.read, (later.world.clusters id).name, none, 0⟩) path := by
  refine ⟨fun _ _ => port?_eq_some_iff, attempt.connect_eq session scene,
    fun hear => attempt.exists_ending hear session scene, fun _ _ ends => ends.answered,
    fun status ends => ?_, fun hear id ends course now => ?_⟩
  · obtain ⟨world, heard, once, replies⟩ := attempt.connect_leaves session scene
    obtain ⟨later, came⟩ := ends.answered
    rw [← attempt.connect_eq] at came
    rw [came] at world replies ⊢
    refine ⟨heard, once, fun other same alike course => ?_⟩
    let start : Scene World := ⟨scene.ambient.passed heard, scene.world⟩
    have after : Twins RepliesAs start later := ⟨later.ambient, replies, congrArg (Scene.mk _) world⟩
    have without : Twins RepliesAs start other := ⟨other.ambient, alike, congrArg (Scene.mk _) same⟩
    exact (session.uses_repliesAs course after).split.1.trans (session.uses_repliesAs course without).split.1.symm
  · obtain ⟨after, came⟩ := ends.answered
    rw [came]
    intro unconnected
    have held := uses_bound rfl course now unconnected
    exact ⟨held, fun path later => openFile_serves held path later⟩

/-- A session that is bound to the first cluster, and reports to an observer. -/
def returning : Session :=
  { engine := 0, user := "u", options := {}, cluster := some 0, observer := some (.embedded "t" .proceed) }

/-- Two clusters of which the first has a file. -/
def twoClusters : Scene World :=
  let first := (World.addCluster {} 0 "h" 8020 "old").2
  let both := (first.addCluster 0 "k" 9 "new").2
  ⟨{}, both.setCluster 0 ((both.clusters 0).putFile "/a" [7])⟩

/-- Where nothing listens, the session goes on with the first cluster; where the second does, with that. -/
theorem vacant_reconnect_keeps_cluster :
    let (failed, after, later) := (Attempt.explicit "h" " +9 ").connect returning twoClusters
    let (made, next, _) := (Attempt.explicit "k" " +9 ").connect returning twoClusters
    failed = .failed (.resourceUnavailable "Unable to connect to h:9") ∧ after = returning ∧
      (after.uses [.openFile "/a"] later).1 = (returning.uses [.openFile "/a"] twoClusters).1 ∧
      made = .ok () ∧ (next.openFile "/a" twoClusters).1 = .failed (.pathNotFound "Path not found: /a") := by
  have port : port? " +9 " = some 9 := by decide +kernel
  have address (host : String) : (Attempt.explicit host " +9 ").address returning.options = .ok (host, 9) := by
    rw [Attempt.address, port]
  have vacant : (Attempt.explicit "h" " +9 ").Ends returning.hears returning twoClusters
      (.error (.resourceUnavailable "Unable to connect to h:9")) := .vacant (address "h") rfl (by decide)
  have binds : (Attempt.explicit "k" " +9 ").Ends returning.hears returning twoClusters (.ok 1) :=
    .bound (address "k") rfl (by decide) (by decide)
  obtain ⟨-, same, -, answers, goes, -⟩ :=
    failed_reconnect_keeps_cluster returning (.explicit "h" " +9 ") twoClusters
  obtain ⟨-, same', -, answers', -, serves⟩ :=
    failed_reconnect_keeps_cluster returning (.explicit "k" " +9 ") twoClusters
  obtain ⟨later, came⟩ := answers _ _ vacant
  obtain ⟨later', came'⟩ := answers' _ _ binds
  have quiet := goes _ vacant
  have bound := serves _ _ binds [] twoClusters
  rw [same, came] at quiet ⊢
  rw [same', came']
  rw [came'] at bound
  obtain ⟨heard, -, quiet⟩ := quiet
  obtain ⟨-, opens⟩ := bound nofun
  exact ⟨rfl, rfl, quiet twoClusters rfl (fun _ => rfl) _, rfl, opens "/a" twoClusters⟩

end Session
end Memory
end DfsClient
