import DfsClient.Proofs.Builders
import DfsClient.Proofs.Obedience

/-! What a connect asks of an engine. An engine that notes what it is asked goes as it would without
the notes. A connect asks in a fixed order, until something does not go well. -/

namespace DfsClient
open Boundary

/-- A request to an engine, and whether it gave something to go on with. -/
structure Note where
  request : Request
  well : Bool

/-- The world of an engine, with all that was asked of it. -/
structure Noted (World : Type) where
  world : World
  notes : List Note

namespace Scene

variable {World : Type}

def noted (scene : Scene World) (notes : List Note) : Scene (Noted World) := ⟨scene.ambient, scene.world, notes⟩

/-- The scene as an engine finds it that knows of no notes. -/
def plain (scene : Scene (Noted World)) : Scene World := ⟨scene.ambient, scene.world.world⟩

end Scene

def Reply.gives {α : Type} (good : α → Bool) : Reply α → Bool
  | .answered answer => good answer
  | .panicked _ => false

namespace Engine

variable {World α X : Type}

def noting (request : Request) (good : α → Bool) (operation : Scene World → Reply α × Scene World)
    (scene : Scene (Noted World)) : Reply α × Scene (Noted World) :=
  let (reply, after) := operation scene.plain
  (reply, after.noted (scene.world.notes ++ [⟨request, reply.gives good⟩]))

def notingOn (request : Request) (good : α → Bool) (operation : Scene World → Reply α × X × Scene World)
    (scene : Scene (Noted World)) : Reply α × X × Scene (Noted World) :=
  let (reply, held, after) := operation scene.plain
  (reply, held, after.noted (scene.world.notes ++ [⟨request, reply.gives good⟩]))

/-- Notes what is released while a panic is under way. -/
def releasing (request : Request) (operation : Scene World → Scene World) (scene : Scene (Noted World)) :
    Scene (Noted World) :=
  (operation scene.plain).noted (scene.world.notes ++ [⟨request, true⟩])

/-- An engine that notes what it is asked. -/
def noted (engine : Engine) : Engine where
  World := Noted engine.World
  Service := engine.Service
  Session := engine.Session
  File := engine.File
  newService := noting .newService (fun _ => true) engine.newService
  newSession service user options :=
    noting (.newSession user options) Option.isSome (engine.newSession service user options)
  observeSession session observer :=
    notingOn .observeSession (fun _ => true) (engine.observeSession session observer)
  connect session host service :=
    notingOn (.connect host service) Except.isOk (engine.connect session host service)
  connectDefault session := notingOn .connectDefault Except.isOk (engine.connectDefault session)
  openFile session path := notingOn (.openFile path) Except.isOk (engine.openFile session path)
  dropSession session := noting .dropSession (fun _ => true) (engine.dropSession session)
  abandonSession session := releasing .dropSession (engine.abandonSession session)
  observeFile file observer := notingOn .observeFile (fun _ => true) (engine.observeFile file observer)
  read file length := notingOn (.read length) Except.isOk (engine.read file length)
  readAt file length offset := notingOn (.readAt length offset) Except.isOk (engine.readAt file length offset)
  seek file target := notingOn (.seek target) Except.isOk (engine.seek file target)
  cancel file := notingOn .cancel (fun _ => true) (engine.cancel file)
  dropFile file := noting .dropFile (fun _ => true) (engine.dropFile file)
  abandonFile file := releasing .dropFile (engine.abandonFile file)

end Engine

/-- What was asked follows what was to be asked, until something does not go well. -/
inductive Follows : List Request → List Note → Prop
  | nothing : Follows [] []
  | stops (request : Request) (rest : List Request) : Follows (request :: rest) [⟨request, false⟩]
  | goes (request : Request) {rest : List Request} {notes : List Note} (further : Follows rest notes) :
      Follows (request :: rest) (⟨request, true⟩ :: notes)

/-- All that was to be asked was asked, or all up to what did not go well. -/
structure Asked (expected : List Request) (well : Bool) (notes : List Note) : Prop where
  follows : Follows expected notes
  well : notes.all Note.well = well

namespace Asked

variable {first second : List Request} {well : Bool} {notes notes' : List Note}

theorem single (request : Request) (well : Bool) : Asked [request] well [⟨request, well⟩] := by
  refine ⟨?_, Bool.and_true well⟩
  cases well with
  | false => exact .stops request []
  | true => exact .goes request .nothing

theorem append (asked : Asked first true notes) (further : Asked second well notes') :
    Asked (first ++ second) well (notes ++ notes') := by
  obtain ⟨follows, good⟩ := asked
  refine ⟨?_, ?_⟩
  · induction follows with
    | nothing => exact further.follows
    | stops request rest => cases good
    | goes request _ ih => exact .goes request (ih good)
  · rw [List.all_append, good, further.well, Bool.true_and]

theorem cut (asked : Asked first false notes) (second : List Request) : Asked (first ++ second) false notes := by
  obtain ⟨follows, bad⟩ := asked
  refine ⟨?_, bad⟩
  induction follows with
  | nothing => cases bad
  | stops request rest => exact .stops request _
  | goes request _ ih => exact .goes request (ih bad)

theorem expected (asked : Asked first well notes) : ∀ note ∈ notes, note.request ∈ first := by
  obtain ⟨follows, -⟩ := asked
  induction follows with
  | nothing => exact fun _ => nofun
  | stops request rest => exact List.forall_mem_singleton.mpr List.mem_cons_self
  | goes request _ ih =>
    exact List.forall_mem_cons.mpr ⟨List.mem_cons_self, fun note member => List.mem_cons_of_mem _ (ih note member)⟩

end Asked

/-- The requests that come before a session is there. -/
def Request.connects : Request → Bool
  | .newService | .newSession .. | .observeSession | .connect .. | .connectDefault => true
  | _ => false

/-- How an engine is asked to make for an endpoint. -/
def Boundary.Endpoint.request : Endpoint → Request
  | .defaultFs => .connectDefault
  | .explicit host port => .connect host (toString port.toNat)

/-- How an engine is asked to attach an observer, if there is one. -/
def observing (observer : Option Observer) : List Request := if observer.isSome then [.observeSession] else []

/-- Notes of nothing but releases. -/
def Releases (notes : List Note) : Prop := ∀ note ∈ notes, note.request = .dropSession

theorem Releases.filter_connects {notes : List Note} (releases : Releases notes) :
    (notes.filter fun note => note.request.connects) = [] := by
  refine List.filter_eq_nil_iff.mpr fun note member => ?_
  rw [releases note member]
  exact Bool.false_ne_true

variable {engine : Engine}

theorem createSession_noted (user : String) (options : Options) (scene : Scene engine.World)
    (notes : List Note) :
    ∃ asked, engine.noted.createSession user options (scene.noted notes) =
        ((engine.createSession user options scene).1,
          (engine.createSession user options scene).2.noted (notes ++ asked)) ∧
      Asked [.newService, .newSession user options]
        ((engine.createSession user options scene).1.gives Option.isSome) asked := by
  have asks : engine.noted.newService (scene.noted notes) = ((engine.newService scene).1,
      (engine.newService scene).2.noted (notes ++ [⟨.newService, (engine.newService scene).1.gives fun _ => true⟩])) :=
    rfl
  unfold Engine.createSession
  rw [asks]
  generalize engine.newService scene = got
  obtain ⟨reply, after⟩ := got
  cases reply with
  | panicked payload => exact ⟨_, rfl, (Asked.single .newService false).cut [.newSession user options]⟩
  | answered service =>
    let well := (engine.newSession service user options after).1.gives Option.isSome
    have asked := (Asked.single .newService true).append (.single (.newSession user options) well)
    refine ⟨_, ?_, asked⟩
    exact congrArg (fun notes => (_, Scene.noted _ notes)) (List.append_assoc ..)

theorem observeSession_noted (session : engine.Session) (observer : Option Observer) (scene : Scene engine.World)
    (notes : List Note) :
    ∃ asked, @observeSession engine.noted session observer (scene.noted notes) =
        ((observeSession session observer scene).1, (observeSession session observer scene).2.1,
          (observeSession session observer scene).2.2.noted (notes ++ asked)) ∧
      Asked (observing observer) ((observeSession session observer scene).1.gives fun _ => true) asked := by
  cases observer with
  | none => exact ⟨[], congrArg (fun notes => (_, _, Scene.noted scene notes)) (List.append_nil notes).symm, .nothing, rfl⟩
  | some observer => exact ⟨_, rfl, .single ..⟩

theorem reach_noted (session : engine.Session) (endpoint : Endpoint) (scene : Scene engine.World)
    (notes : List Note) :
    ∃ asked, @reach engine.noted session endpoint (scene.noted notes) =
        ((reach session endpoint scene).1, (reach session endpoint scene).2.1,
          (reach session endpoint scene).2.2.noted (notes ++ asked)) ∧
      Asked [endpoint.request] ((reach session endpoint scene).1.gives Except.isOk) asked := by
  cases endpoint with
  | defaultFs => exact ⟨_, rfl, .single ..⟩
  | explicit host port => exact ⟨_, rfl, .single ..⟩

namespace Boundary.Caller

/-- The caller as it meets an engine with notes. -/
def noted (caller : Caller engine.World) (notes : List Note) : Caller engine.noted.World :=
  ⟨caller.slots, caller.scene.noted notes⟩

variable (caller : Caller engine.World) (notes : List Note)

theorem record_noted (failure : Failure) :
    (caller.noted notes).record failure = (caller.record failure).noted notes := by
  rw [record_eq, record_eq]
  cases failure.error? with
  | none => rfl
  | some error => rfl

theorem abandonSession_noted (session : engine.Session) (payload : Payload) :
    @abandonSession engine.noted (caller.noted notes) session payload =
      (caller.abandonSession session payload).noted (notes ++ [⟨.dropSession, true⟩]) :=
  record_noted { caller with scene := engine.abandonSession session caller.scene } _ (.panicked payload)

theorem releaseSession_noted (session : engine.Session) :
    ∃ well, (@releaseSession engine.noted (caller.noted notes) session).2 =
      (caller.releaseSession session).2.noted (notes ++ [⟨.dropSession, well⟩]) := by
  refine ⟨(engine.dropSession session caller.scene).1.gives fun _ => true, ?_⟩
  have drops : engine.noted.dropSession session (caller.noted notes).scene =
      ((engine.dropSession session caller.scene).1, (engine.dropSession session caller.scene).2.noted
        (notes ++ [⟨.dropSession, (engine.dropSession session caller.scene).1.gives fun _ => true⟩])) := rfl
  unfold releaseSession
  rw [drops]
  generalize engine.dropSession session caller.scene = got
  obtain ⟨reply, scene⟩ := got
  cases reply with
  | answered answer => rfl
  | panicked payload => exact record_noted { caller with scene } _ (.panicked payload)

theorem establish_panicked {engine : Engine} (caller : Caller engine.World) (session : engine.Session)
    (endpoint : Endpoint) (user : Option String) {held : engine.Session} {scene : Scene engine.World}
    {payload : Payload}
    (attached : observeSession session caller.slots.sessionObserver caller.scene = (.panicked payload, held, scene)) :
    caller.establish session endpoint user = (none, { caller with scene }.abandonSession held payload) := by
  unfold establish
  rw [attached]

theorem concluding_noted (got : Result Unit × engine.Session × Scene engine.World) (before : List Note) :
    ∃ released, @concluding engine.noted (caller.noted before) (got.1, got.2.1, got.2.2.noted notes) =
        ((caller.concluding got).1, (caller.concluding got).2.noted (notes ++ released)) ∧
      (caller.concluding got).1.isSome = got.1.gives Except.isOk ∧ Releases released := by
  obtain ⟨result, session, scene⟩ := got
  match result with
  | .answered (.ok ()) =>
    refine ⟨[], ?_, rfl, fun _ => nofun⟩
    rw [List.append_nil]
    rfl
  | .answered (.error status) =>
    let reported := { caller with scene }.record (.failed status)
    obtain ⟨well, released⟩ := releaseSession_noted reported notes session
    refine ⟨[⟨.dropSession, well⟩], ?_, rfl, List.forall_mem_singleton.mpr rfl⟩
    have recorded := record_noted { caller with scene } notes (.failed status)
    have drops := congrArg (fun after => (@releaseSession engine.noted after session).2) recorded
    exact congrArg (Prod.mk none) (drops.trans released)
  | .panicked payload =>
    exact ⟨[⟨.dropSession, true⟩],
      congrArg (Prod.mk none) (abandonSession_noted { caller with scene } notes session payload), rfl,
      List.forall_mem_singleton.mpr rfl⟩

theorem establish_noted (session : engine.Session) (endpoint : Endpoint) (user : Option String) :
    ∃ asked released, @establish engine.noted (caller.noted notes) session endpoint user =
        ((caller.establish session endpoint user).1,
          (caller.establish session endpoint user).2.noted (notes ++ asked ++ released)) ∧
      Asked (observing caller.slots.sessionObserver ++ [endpoint.request])
        (caller.establish session endpoint user).1.isSome asked ∧ Releases released := by
  obtain ⟨observed, same, attaches⟩ :=
    observeSession_noted session caller.slots.sessionObserver caller.scene notes
  cases got : observeSession session caller.slots.sessionObserver caller.scene with
  | mk reply rest =>
    obtain ⟨held, scene⟩ := rest
    rw [got] at same attaches
    cases reply with
    | panicked payload =>
      have mine := establish_panicked caller session endpoint user got
      have theirs := @establish_panicked engine.noted (caller.noted notes) session endpoint user _ _ _ same
      refine ⟨observed, [⟨.dropSession, true⟩], ?_, ?_, List.forall_mem_singleton.mpr rfl⟩
      · rw [theirs, mine]
        exact congrArg (Prod.mk none) (abandonSession_noted { caller with scene } (notes ++ observed) held payload)
      · rw [mine]
        exact attaches.cut _
    | answered answer =>
      have mine := establish_eq caller session endpoint user got
      have theirs := @establish_eq engine.noted (caller.noted notes) session endpoint user _ _ same
      obtain ⟨asked, reached, reaches⟩ :=
        reach_noted held endpoint (scene.trace (connectingNote endpoint user)) (notes ++ observed)
      obtain ⟨released, concludes, made, releases⟩ := concluding_noted caller (notes ++ observed ++ asked)
        (reach held endpoint (scene.trace (connectingNote endpoint user))) notes
      refine ⟨observed ++ asked, released, ?_, ?_, releases⟩
      · rw [theirs, mine, ← List.append_assoc]
        exact (congrArg (@concluding engine.noted (caller.noted notes)) reached).trans concludes
      · rw [mine, made]
        exact attaches.append reaches

/-- What a connect asks for, one after the other. -/
def asks (observer : Option Observer) (endpoint : Endpoint) (user : String) (options : Options) : List Request :=
  [.newService, .newSession user options] ++ (observing observer ++ [endpoint.request])

theorem connects_asks {observer : Option Observer} {endpoint : Endpoint} {user : String} {options : Options}
    (request : Request) (member : request ∈ asks observer endpoint user options) : request.connects = true := by
  have expected : request = .newService ∨ request = .newSession user options ∨ request ∈ observing observer ∨
      request = endpoint.request := by simpa [asks] using member
  rcases expected with rfl | rfl | attaching | rfl
  · rfl
  · rfl
  · unfold observing at attaching
    split at attaching
    · rw [List.mem_singleton.mp attaching]
      rfl
    · cases attaching
  · cases endpoint with
    | defaultFs => rfl
    | explicit host port => rfl

theorem connect_noted (endpoint : Endpoint) (user : Option String) (options : Options) :
    ∃ asked released, @connect engine.noted (caller.noted notes) endpoint user options =
        ((caller.connect endpoint user options).1,
          (caller.connect endpoint user options).2.noted (notes ++ asked ++ released)) ∧
      Asked (asks caller.slots.sessionObserver endpoint (user.getD "") options)
        (caller.connect endpoint user options).1.isSome asked ∧ Releases released := by
  obtain ⟨made, same, makes⟩ := createSession_noted (user.getD "") options caller.scene notes
  have created : engine.noted.createSession (user.getD "") options (caller.noted notes).scene = _ := same
  unfold connect
  rw [created]
  generalize engine.createSession (user.getD "") options caller.scene = got at makes
  obtain ⟨reply, scene⟩ := got
  match reply with
  | .panicked payload =>
    refine ⟨made, [], ?_, makes.cut _, fun _ => nofun⟩
    rw [List.append_nil]
    exact congrArg (Prod.mk none) (record_noted { caller with scene } (notes ++ made) (.panicked payload))
  | .answered none =>
    refine ⟨made, [], ?_, makes.cut _, fun _ => nofun⟩
    rw [List.append_nil]
    exact congrArg (Prod.mk none) (record_noted { caller with scene } (notes ++ made) (.refused .noSession))
  | .answered (some session) =>
    obtain ⟨asked, released, same, establishes, releases⟩ :=
      establish_noted { caller with scene } (notes ++ made) session endpoint user
    refine ⟨made ++ asked, released, ?_, makes.append establishes, releases⟩
    rw [← List.append_assoc]
    exact same

theorem optionsOf_noted [Formats] (scene : Scene engine.World) (notes : List Note) (snapshot : Snapshot) :
    (scene.noted notes).optionsOf snapshot =
      ((scene.optionsOf snapshot).1, (scene.optionsOf snapshot).2.noted notes) := by
  unfold Scene.optionsOf
  cases Options.defaultFsProblem? snapshot with
  | none => rfl
  | some problem => rfl

theorem connectBuilder_noted [Formats] (builder : Builder) :
    ∃ asked released, @connectBuilder engine.noted _ (caller.noted notes) (some builder) =
        ((caller.connectBuilder (some builder)).1,
          (caller.connectBuilder (some builder)).2.noted (notes ++ asked ++ released)) ∧
      Asked (asks caller.slots.sessionObserver builder.endpoint (builder.user.getD "") builder.options)
        (caller.connectBuilder (some builder)).1.isSome asked ∧ Releases released := by
  obtain ⟨asked, released, same, connects, releases⟩ :=
    connect_noted { caller with scene := (caller.scene.optionsOf builder.snapshot).2 } notes builder.endpoint
      builder.user builder.options
  refine ⟨asked, released, ?_, connects, releases⟩
  have optioned := congrArg Prod.snd (optionsOf_noted caller.scene notes builder.snapshot)
  exact (congrArg (fun scene => @connect engine.noted ⟨caller.slots, scene⟩ builder.endpoint builder.user
    builder.options) optioned).trans same

end Boundary.Caller

namespace Client

/-- The client as it meets an engine with notes. -/
def noted (client : Client engine) (notes : List Note) : Client engine.noted where
  scene := client.scene.noted notes
  tree := client.tree
  environment := client.environment
  threads := client.threads
  builders := client.builders
  sessions := client.sessions
  files := client.files

/-- What a call asks of the engine until a session is there. -/
def asked [Formats] (client : Client engine) (thread : Nat) (call : Call) : List Note :=
  (Noted.notes ((client.noted []).call thread call).2.scene.world).filter fun note => note.request.connects

theorem replaceSession_noted (client : Client engine) (notes : List Note) (into : Handle)
    (session : Option engine.Session) :
    ∃ released, @replaceSession engine.noted (client.noted notes) into session =
      (client.replaceSession into session).noted (notes ++ released) ∧ Releases released := by
  cases into with
  | none =>
    cases session with
    | none =>
      refine ⟨[], ?_, fun _ => nofun⟩
      rw [List.append_nil]
      rfl
    | some session => exact ⟨[⟨.dropSession, _⟩], rfl, List.forall_mem_singleton.mpr rfl⟩
  | some name =>
    cases found : client.sessions.get? name with
    | none =>
      refine ⟨[], ?_, fun _ => nofun⟩
      have absent : (client.noted notes).sessions.get? name = none := found
      unfold replaceSession
      dsimp only
      rw [found, absent, List.append_nil]
      rfl
    | some old =>
      refine ⟨[⟨.dropSession, (engine.dropSession old client.scene).1.gives fun _ => true⟩], ?_,
        List.forall_mem_singleton.mpr rfl⟩
      have there : (client.noted notes).sessions.get? name = some old := found
      unfold replaceSession
      dsimp only
      rw [found, there]
      rfl

/-- A connect through a builder asks for what the builder says at that time. That it is noted
makes no difference. -/
theorem connectBuilder_asks [Formats] (client : Client engine) (thread : Nat) (builder : Handle) {held : Builder}
    (there : client.builders.find? builder = some held) (into : Handle) :
    let call := .connectBuilder builder into
    let (answer, after) := client.call thread call
    ∃ made notes, answer = .handle made ∧ (client.noted []).call thread call = (answer, after.noted notes) ∧
      Asked (Caller.asks (client.threads thread).sessionObserver held.endpoint (held.user.getD "") held.options)
        made (client.asked thread call) := by
  let finish {engine : Engine} (client : Client engine) (got : Option engine.Session × Caller engine.World) :
      Answer × Client engine := (.handle got.1.isSome, (client.resume thread got.2).replaceSession into got.1)
  obtain ⟨asked, released, same, asks, releases⟩ := (client.caller thread).connectBuilder_noted [] held
  rw [List.nil_append] at same
  let got := (client.caller thread).connectBuilder (some held)
  obtain ⟨dropped, replaced, drops⟩ :=
    replaceSession_noted (client.resume thread got.2) (asked ++ released) into got.1
  have mine : client.call thread (.connectBuilder builder into) = finish client got :=
    congrArg (fun held => finish client ((client.caller thread).connectBuilder held)) there
  have theirs : (client.noted []).call thread (.connectBuilder builder into) =
      (.handle got.1.isSome, (finish client got).2.noted (asked ++ released ++ dropped)) := by
    have found := congrArg (fun held => finish (client.noted [])
      (@Caller.connectBuilder engine.noted _ ((client.caller thread).noted []) held)) there
    have connected := congrArg (finish (client.noted [])) same
    exact (found.trans connected).trans (congrArg (Prod.mk _) replaced)
  have kept : client.asked thread (.connectBuilder builder into) = asked := by
    have notes := congrArg (fun got => Noted.notes got.2.scene.world) theirs
    have whole : Noted.notes ((client.noted []).call thread (.connectBuilder builder into)).2.scene.world =
      asked ++ released ++ dropped := notes
    have connects (note : Note) (member : note ∈ asked) : note.request.connects = true :=
      Caller.connects_asks note.request (asks.expected note member)
    unfold Client.asked
    rw [whole, List.filter_append, List.filter_append, List.filter_eq_self.mpr connects,
      releases.filter_connects, drops.filter_connects, List.append_nil, List.append_nil]
  intro call
  rw [show client.call thread call = _ from mine]
  exact ⟨_, _, rfl, theirs, kept ▸ asks⟩

end Client
end DfsClient
