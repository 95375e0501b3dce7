import DfsClient.Formats.Standard
import DfsClient.Proofs.Authorities
import DfsClient.Proofs.Blindness
import DfsClient.Proofs.DefaultEndpoint
import DfsClient.Proofs.Overrides

/-! The ways to connect. Host, port and user may be given with the call or set on a builder beforehand, and
the address may stand in the configuration instead. Whichever way is taken, the same is asked of the engine and
the same comes of it. Only the notes tell the ways apart. -/

namespace DfsClient
open Boundary

namespace Ambient

theorem Renoted.refl (ambient : Ambient) : Renoted ambient ambient := ⟨ambient.seen, rfl, rfl⟩

/-- Notes may differ, and may be missing. -/
theorem Renoted.trace {ambient ambient' : Ambient} (alike : Renoted ambient ambient') {note : Trace}
    (plain : note.isRecord = false) :
    Renoted ambient (ambient'.trace note) ∧ Renoted (ambient.trace note) ambient' := by
  obtain ⟨seen', same, rfl⟩ := alike
  have unseen (seen : List Observation) :
      (seen ++ [Observation.traced note]).filter (!·.isNote) = seen.filter (!·.isNote) := by
    simp [List.filter_append, Observation.isNote, plain]
  exact ⟨⟨_, same.trans (unseen _).symm, rfl⟩, ⟨_, (unseen _).trans same, rfl⟩⟩

end Ambient

namespace Scene

variable {World : Type} {one other : Scene World} (twins : Twins Ambient.Renoted one other)
include twins

theorem trace_renoted {note note' : Trace} (plain : note.isRecord = false) (plain' : note'.isRecord = false) :
    Twins Ambient.Renoted (one.trace note) (other.trace note') := by
  obtain ⟨ambient', alike, rfl⟩ := twins
  exact ⟨_, ((alike.trace plain).2.trace plain').1, rfl⟩

theorem traceAll_renoted (notes : List Trace) (plain : ∀ note ∈ notes, note.isRecord = false) :
    Twins Ambient.Renoted one (other.traceAll notes) := by
  induction notes generalizing other with
  | nil => exact twins
  | cons note rest ih =>
    obtain ⟨first, others⟩ := List.forall_mem_cons.mp plain
    obtain ⟨ambient', alike, rfl⟩ := twins
    exact ih ⟨_, (alike.trace first).1, rfl⟩ others

end Scene

namespace Boundary

/-- A change that no builder refuses. -/
def Change.Welcome (change : Change) : Prop := ∀ builder : Builder, builder.apply change = .ok (builder.after [change])

theorem Change.welcome_host {given : Given} {host : Option String} (named : optionalOf? given = some host) :
    (Change.host given).Welcome := by
  intro builder
  obtain accepted | ⟨⟨fault, refused⟩, -⟩ := builder.apply_eq (.host given)
  · exact accepted
  · rw [Builder.apply, optionalText_of_optionalOf? named] at refused
    cases refused

theorem Change.welcome_user {given : Given} {user : Option String} (named : optionalOf? given = some user) :
    (Change.user given).Welcome := by
  intro builder
  obtain accepted | ⟨⟨fault, refused⟩, -⟩ := builder.apply_eq (.user given)
  · exact accepted
  · rw [Builder.apply, optionalText_of_optionalOf? named] at refused
    cases refused

theorem Change.welcome_port (port : UInt16) : (Change.port port).Welcome := fun builder =>
  congrArg Except.ok (builder.after_single (.port port)).symm

/-- To an engine an empty user is no user. -/
theorem getD_filter_empty (user : Option String) : (user.filter (· ≠ "")).getD "" = user.getD "" := by
  cases user with
  | none => rfl
  | some user =>
    by_cases empty : user = ""
    · subst empty
      rfl
    · simp [Option.filter_some, empty]

namespace Builder

variable (builder : Builder)

theorem after_host {given : Given} {host : Option String} (named : optionalOf? given = some host) :
    builder.after [.host given] = { builder with host } := by
  have set : (Change.host given).host? = some host := named
  rw [after_single, set]
  rfl

theorem after_port (port : UInt16) : builder.after [.port port] = { builder with port := portOverride port } :=
  builder.after_single (.port port)

theorem after_user {given : Given} {user : Option String} (named : optionalOf? given = some user) :
    builder.after [.user given] = { builder with user := (user.filter (· ≠ "")).or builder.user } := by
  have set : (Change.user given).user? = user.filter (· ≠ "") :=
    congrArg (Option.filter (· ≠ "")) (textOf?_of_optionalOf? named)
  rw [after_single, set]
  rfl

/-- A builder on which host, port and user are set for the first time. -/
theorem after_overrides {nn user : Given} {host login : Option String} (named : optionalOf? nn = some host)
    (logged : optionalOf? user = some login) (port : UInt16) :
    ({} : Builder).after [.host nn, .port port, .user user] =
      { host, port := portOverride port, user := login.filter (· ≠ "") } := by
  rw [← List.singleton_append, after_append, after_host _ named, ← List.singleton_append, after_append,
    after_port, after_user _ logged, Option.or_none]

/-- A builder without a port on which a host is set, and possibly a port. -/
theorem after_address {given : Given} {host : Option String} (named : optionalOf? given = some host)
    (portless : builder.port = none) {port : Option UInt16} (sensible : port ≠ some 0) :
    builder.after (.host given :: port.toList.map Change.port) = { builder with host, port } := by
  rw [← List.singleton_append, after_append, after_host _ named]
  cases port with
  | none => exact congrArg (fun port => { builder with host, port }) portless
  | some port =>
    have kept : portOverride port = some port := if_neg fun zero => sensible (congrArg some zero)
    refine (after_port _ port).trans ?_
    rw [kept]

end Builder

namespace Caller

variable {World : Type} {engine : Engine}

/-- A thread that loads a builder leaves notes at most. -/
theorem loading_renoted [Formats] {caller : Caller World} {tree : Config.FileTree} {path : Config.SearchPath}
    {builder : Builder} (loaded : (caller.loading tree path).1 = some builder) :
    Twins Ambient.Renoted caller (caller.loading tree path).2 := by
  have noted := Scene.traceAll_renoted (.of caller.scene (.refl caller.scene.ambient)) _
    (Config.isRecord_loadDefaults tree path)
  unfold loading Builder.load at loaded ⊢
  dsimp only at loaded ⊢
  cases outcome : (Config.loadDefaults tree path).1 with
  | panicked payload =>
    rw [outcome] at loaded
    cases loaded
  | answered snapshot => exact goes_on caller.slots noted

/-- An empty configuration and a configuration that nobody gave make the same options, and an empty user is no
user to the engine. -/
theorem connectDirect_renoted [Formats] (blind : engine.Blind) {nn user : Given} {host login : Option String}
    (named : optionalOf? nn = some host) (logged : optionalOf? user = some login) (port : UInt16)
    {caller caller' : Caller engine.World} (twins : Twins Ambient.Renoted caller caller') :
    Twins Ambient.Renoted (caller.connectDirect nn port user)
      (caller'.connectBuilder (some { host, port := portOverride port, user := login.filter (· ≠ "") })) := by
  have direct : caller.connectDirect nn port user = caller.connect (.resolve host (portOverride port)) login {} := by
    unfold connectDirect
    rw [optionalText_of_optionalOf? named, optionalText_of_optionalOf? logged]
  have built : caller'.connectBuilder (some { host, port := portOverride port, user := login.filter (· ≠ "") }) =
      caller'.connect (.resolve host (portOverride port)) (login.filter (· ≠ "")) {} := rfl
  rw [direct, built]
  exact connect_carries Ambient.Renoted.steady blind.renoted (getD_filter_empty login).symm _ {}
    (fun _ _ scenes => Scene.trace_renoted scenes rfl rfl) twins

end Caller
end Boundary

namespace Memory

/-- Endpoints that stand for the same address are connected to alike. -/
theorem connect_renoted (caller : Caller engine.World) (user : Option String) {options : Options}
    {endpoint endpoint' : Endpoint} {host : String} {port : UInt16}
    (address : address? options endpoint = some (host, port))
    (address' : address? options endpoint' = some (host, port)) :
    Twins Ambient.Renoted (caller.connect endpoint user options) (caller.connect endpoint' user options) := by
  let session : Session :=
    { engine := caller.scene.world.installed, user := user.getD "", options, observer := caller.slots.sessionObserver }
  let served : Scene World := ⟨caller.scene.ambient, caller.scene.world.addService caller.scene.world.installed⟩
  have reached {endpoint : Endpoint} (address : address? session.options endpoint = some (host, port)) :
      caller.connect endpoint user options =
        caller.concluding (session.connectTo host port (served.trace (connectingNote endpoint user))) :=
    (Caller.connect_eq caller endpoint user options).trans (congrArg caller.concluding (reach_address address _))
  have noted : Twins Ambient.Renoted (served.trace (connectingNote endpoint user))
      (served.trace (connectingNote endpoint' user)) := Scene.trace_renoted (.of served (.refl _)) rfl rfl
  rw [reached address, reached address']
  exact Caller.concluding_carries Ambient.Renoted.steady (engine_respects Ambient.Renoted.steady) caller
    (Session.connectTo_carries Ambient.Renoted.steady session host port noted)

theorem connectBuilder_renoted [Formats] (reads : Formats.ReadsAddresses) (caller : Caller engine.World)
    {builder : Builder} {value host : String} {port : Option UInt16} (hostless : builder.host = none) (portless : builder.port = none)
    (configured : builder.snapshot.get? "fs.defaultFS" = some value) (nonempty : host ≠ "")
    (known : ∀ c ∈ host.toList, Url.isHostChar c = true) (spelled : Url.Spelled "hdfs" host port value) :
    address? builder.options builder.endpoint = some (host, port.getD defaultPort) ∧
      Twins Ambient.Renoted (caller.connectBuilder (some builder))
        (caller.connectBuilder (some { builder with host := some host, port })) := by
  obtain ⟨url, parsed, host?, port?⟩ := Url.urlOf?_hdfs reads nonempty known spelled
  have address : address? builder.options builder.endpoint = some (host, port.getD defaultPort) := by
    rw [Builder.endpoint, hostless, portless]
    change (builder.options.defaultFs.bind _) = _
    rw [Builder.options, Options.defaultFs_ofSnapshot configured, parsed, Option.bind_some, host?, port?]
    rfl
  let overridden : Builder := { builder with host := some host, port }
  have address' : address? builder.options overridden.endpoint = some (host, port.getD defaultPort) := rfl
  let optioned : Caller engine.World := { caller with scene := (caller.scene.optionsOf builder.snapshot).2 }
  have direct : caller.connectBuilder (some builder) =
    optioned.connect builder.endpoint builder.user builder.options := rfl
  have direct' : caller.connectBuilder (some overridden) =
    optioned.connect overridden.endpoint builder.user builder.options := rfl
  have alike := connect_renoted optioned builder.user address address'
  rw [← direct, ← direct'] at alike
  exact ⟨address, alike⟩

end Memory

namespace Client

variable {engine : Engine} {client : Client engine} {name : String}

/-- Changes that are welcome do nothing but change the builder. -/
theorem run_welcome [Formats] {builder : Builder} (there : client.builders.get? name = some builder) (thread : Nat)
    (changes : List Change) (welcome : ∀ change ∈ changes, change.Welcome) :
    let after := (client.run (changes.map fun change => (thread, .changeBuilder (some name) change))).2
    after.builders.get? name = some (builder.after changes) ∧ { after with builders := client.builders } = client := by
  induction changes generalizing client builder with
  | nil => exact ⟨there, rfl⟩
  | cons change rest ih =>
    obtain ⟨first, later⟩ := List.forall_mem_cons.mp welcome
    let changed := builder.after [change]
    have held : client.builders.find? (some name) = some builder := there
    have once : (client.call thread (.changeBuilder (some name) change)).2 =
        client.keepBuilder (some name) (some changed) := by
      simp only [Client.call, changeBuilder, held, Boundary.changed, first builder, Caller.accept, resume_caller]
      rfl
    obtain ⟨builders, others⟩ := ih (get?_keepBuilder client name (some changed)) later
    intro after
    have stepped : after = ((client.keepBuilder (some name) (some changed)).run
        (rest.map fun change => (thread, .changeBuilder (some name) change))).2 := by
      rw [← once]
      rfl
    rw [stepped, ← List.singleton_append, Builder.after_append]
    exact ⟨builders, congrArg (fun after => { after with builders := client.builders }) others⟩

/-- A call that makes a builder leaves nothing else behind but notes. -/
theorem call_makes_quietly [Formats] {thread : Nat} {making : Call} {builder : Builder}
    (makes : making.newBuilder? = some (some name))
    (there : (client.call thread making).2.builders.get? name = some builder) :
    Twins Ambient.Renoted client { (client.call thread making).2 with builders := client.builders } := by
  have itself : Twins Ambient.Renoted client client := .of client (.refl client.scene.ambient)
  have loads {path : Config.SearchPath}
      (loaded : ((client.caller thread).loading client.tree path).1 = some builder) :
      Twins Ambient.Renoted client (client.resume thread ((client.caller thread).loading client.tree path).2) := by
    have resumed := resume_twins itself thread (Caller.loading_renoted loaded)
    rw [resume_caller] at resumed
    exact resumed
  cases making with
  | newBuilder into =>
    cases makes
    exact loads ((get?_keepBuilder ..).symm.trans there)
  | newBuilderFrom directory into =>
    cases makes
    have loaded : (client.directoryBuilder (client.caller thread) directory).1 = some builder :=
      (get?_keepBuilder ..).symm.trans there
    change Twins _ client (client.resume thread (client.directoryBuilder (client.caller thread) directory).2)
    cases given : requiredText "configDirectory" directory with
    | error fault =>
      unfold directoryBuilder at loaded
      rw [given] at loaded
      cases loaded
    | ok text =>
      rw [directoryBuilder_ok client _ given] at loaded ⊢
      exact loads loaded
  | _ => cases makes

/-- Two clients that differ in builders and notes at most make the same of threads that got the same. -/
theorem connected_renoted (blind : engine.Blind) {other : Client engine}
    (alike : Twins Ambient.Renoted client { other with builders := client.builders }) (thread : Nat) (into : Handle)
    {got got' : Option engine.Session × Caller engine.World} (made : Twins Ambient.Renoted got got') :
    got'.1.isSome = got.1.isSome ∧
      Twins Ambient.Renoted ((client.resume thread got.2).replaceSession into got.1)
        { (other.resume thread got'.2).replaceSession into got'.1 with builders := client.builders } :=
  ⟨congrArg Option.isSome made.split.1, (connected_twins alike blind.renoted thread into made).split.2⟩

theorem call_connectBuilder [Formats] {builder : Builder} (there : client.builders.get? name = some builder)
    (thread : Nat) (into : Handle) :
    client.call thread (.connectBuilder (some name) into) =
      let got := (client.caller thread).connectBuilder (some builder)
      (.handle got.1.isSome, (client.resume thread got.2).replaceSession into got.1) :=
  congrArg (fun builder =>
    let got := (client.caller thread).connectBuilder builder
    (Answer.handle got.1.isSome, (client.resume thread got.2).replaceSession into got.1)) there

/-- All that a call asks of the engine. -/
def requests [Formats] (client : Client engine) (thread : Nat) (call : Call) : List Note :=
  Noted.notes ((client.noted []).call thread call).2.scene.world

section
variable {prepared : Client engine} {nn user : Given} {host login : Option String} {port : UInt16}
  (blind : engine.Blind) (alike : Twins Ambient.Renoted client { prepared with builders := client.builders })
  (named : optionalOf? nn = some host) (logged : optionalOf? user = some login)
  (there : prepared.builders.get? name = some { host, port := portOverride port, user := login.filter (· ≠ "") })

include blind alike named logged there in
theorem prepared_renoted [Formats] (thread : Nat) (into : Handle) :
    let direct := client.call thread (.connect nn port user into)
    let built := prepared.call thread (.connectBuilder (some name) into)
    built.1 = direct.1 ∧ Twins Ambient.Renoted direct.2 { built.2 with builders := client.builders } := by
  intro direct built
  have made := Caller.connectDirect_renoted blind named logged port (caller_twins alike thread)
  have connected := connected_renoted blind alike thread into made
  rw [show built = _ from call_connectBuilder there thread into]
  exact ⟨congrArg Answer.handle connected.1, connected.2⟩

include alike in
/-- What is noted of requests is beside the surroundings. -/
theorem noted_renoted :
    Twins Ambient.Renoted (client.noted []) { prepared.noted [] with builders := (client.noted []).builders } := by
  obtain ⟨ambient', alike, same⟩ := alike
  exact ⟨ambient', alike, congrArg (Client.noted · []) same⟩

include blind alike named logged there in
theorem prepared_requests [Formats] (thread : Nat) (into : Handle) :
    prepared.requests thread (.connectBuilder (some name) into) =
      client.requests thread (.connect nn port user into) := by
  obtain ⟨-, _, -, same⟩ := prepared_renoted blind.noted (noted_renoted alike) named logged there thread into
  have worlds := congrArg (fun client : Client engine.noted => client.scene.world) same
  exact congrArg Noted.notes worlds

include blind alike named logged there in
theorem prepared_asks [Formats] (thread : Nat) (into : Handle) :
    ∃ made, (prepared.call thread (.connectBuilder (some name) into)).1 = .handle made ∧
      Asked (Caller.asks (client.threads thread).sessionObserver (.resolve host (portOverride port)) (login.getD "") {})
        made (client.asked thread (.connect nn port user into)) := by
  have same := prepared_requests blind alike named logged there thread into
  have filtered : prepared.asked thread (.connectBuilder (some name) into) =
      client.asked thread (.connect nn port user into) :=
    congrArg (fun notes : List Note => notes.filter fun note : Note => note.request.connects) same
  have held : prepared.builders.find? (some name) = _ := there
  obtain ⟨made, -, answered, -, asked⟩ := prepared.connectBuilder_asks thread (some name) held into
  have threads : prepared.threads = client.threads := by
    obtain ⟨_, -, same⟩ := alike
    exact (congrArg Client.threads same :)
  rw [threads, filtered, getD_filter_empty] at asked
  exact ⟨made, answered, asked⟩

end

/-- A connect that is given host, port and user is the connect of a builder without a configuration on which
they were set: it asks the same of the engine, and what comes of it differs in the builder and in notes alone. -/
theorem direct_connects_as_built [Formats] (blind : engine.Blind) (client : Client engine) (thread : Nat) {making : Call}
    (makes : making.newBuilder? = some (some name))
    (empty : (client.call thread making).2.builders.get? name = some {}) {nn user : Given}
    {host login : Option String} (named : optionalOf? nn = some host)
    (logged : optionalOf? user = some login) (port : UInt16) (into : Handle) :
    let setters := [Change.host nn, .port port, .user user]
    let prepared := (client.run ((thread, making) ::
      setters.map fun change => (thread, .changeBuilder (some name) change))).2
    let call := .connect nn port user into
    let call' := .connectBuilder (some name) into
    let direct := client.call thread call
    let built := prepared.call thread call'
    built.1 = direct.1 ∧ Twins Ambient.Renoted direct.2 { built.2 with builders := client.builders } ∧
      prepared.requests thread call' = client.requests thread call ∧
      ∃ made, direct.1 = .handle made ∧
        Asked ([.newService, .newSession (login.getD "") {}] ++ (observing (client.threads thread).sessionObserver ++
          [if host = none ∧ port = 0 then .connectDefault
            else .connect (host.getD "") (toString (if port = 0 then 8020 else port).toNat)]))
          made (client.asked thread call) := by
  intro setters prepared
  have welcome : ∀ change ∈ setters, change.Welcome :=
    List.forall_mem_cons.mpr ⟨Change.welcome_host named, List.forall_mem_cons.mpr ⟨Change.welcome_port port,
      List.forall_mem_singleton.mpr (Change.welcome_user logged)⟩⟩
  have quiet := call_makes_quietly makes empty
  have stepped : prepared = ((client.call thread making).2.run
      (setters.map fun change => (thread, .changeBuilder (some name) change))).2 := rfl
  obtain ⟨there, others⟩ := run_welcome empty thread setters welcome
  rw [← stepped] at there others
  -- From here on it does not matter how the builder was prepared.
  clear_value prepared
  have alike : Twins Ambient.Renoted client { prepared with builders := client.builders } := by
    rw [← others] at quiet
    exact quiet
  have held : prepared.builders.get? name =
      some { host, port := portOverride port, user := login.filter (· ≠ "") } :=
    there.trans (congrArg some (Builder.after_overrides named logged port))
  intro call call' direct built
  obtain ⟨answer, left⟩ := prepared_renoted blind alike named logged held thread into
  have asks := prepared_requests blind alike named logged held thread into
  obtain ⟨made, answered, asked⟩ := prepared_asks blind alike named logged held thread into
  have attempt : (Endpoint.resolve host (portOverride port)).request =
      if host = none ∧ port = 0 then .connectDefault
      else .connect (host.getD "") (toString (if port = 0 then 8020 else port).toNat) := by
    rw [Endpoint.request_resolve]
    by_cases zero : port = 0 <;> simp [portOverride, zero]
  rw [← attempt]
  exact ⟨answer, left, asks, made, answer.symm.trans answered, asked⟩

section

open scoped Formats.Standard

/-- A host with bytes behind its NUL, and a user. Without its NUL the host is no text and is refused. -/
theorem nowhere_connects_either_way :
    let host : Given := some [104, 0, 255]
    let prepared := (unconfigured.run [(0, .newBuilder (some "b")), (0, .changeBuilder (some "b") (.host host)),
      (0, .changeBuilder (some "b") (.port 0)), (0, .changeBuilder (some "b") (.user (some [117])))]).2
    let direct := unconfigured.call 0 (.connect host 0 (some [117]) (some "s"))
    let built := prepared.call 0 (.connectBuilder (some "b") (some "s"))
    let refused := unconfigured.call 0 (.connect (some [104, 255]) 0 (some [117]) (some "s"))
    (direct.2.threads 0).lastError = (11, "Unable to connect to h:8020") ∧ built.1 = direct.1 ∧
      Twins Ambient.Renoted direct.2 { built.2 with builders := unconfigured.builders } ∧
      Asked [.newService, .newSession "u" {}, .connect "h" "8020"] false
        (unconfigured.asked 0 (.connect host 0 (some [117]) (some "s"))) ∧
      (refused.2.threads 0).lastError = (22, "Argument \x60nn\x60 is not valid UTF-8") := by
  intro given prepared direct built refused
  have named : optionalOf? given = some (some "h") := optionalOf?_of_textOf? (textOf?_of_encode rfl)
  have logged : optionalOf? (some [117]) = some (some "u") := optionalOf?_of_textOf? (textOf?_of_encode rfl)
  obtain ⟨answer, left, -, made, null, asked⟩ := direct_connects_as_built .memory unconfigured 0
    (rfl : (Call.newBuilder (some "b")).newBuilder? = _) rfl named logged 0 (some "s")
  have host : optionalText "nn" given = .ok (some "h") := optionalText_of_optionalOf? named _
  have user : optionalText "user" (some [117]) = .ok (some "u") := optionalText_of_optionalOf? logged _
  have spoilt : optionalText "nn" (some [104, 255]) = .error (.invalidText "nn") := by
    rw [optionalText_eq, optionalOf?_of_mem (show 255 ∈ _ by decide) (by decide)]
  have error : (direct.2.threads 0).lastError = (11, "Unable to connect to h:8020") := by
    simp only [direct, call, connect, Caller.connectDirect, host, user]
    rfl
  have denied : direct.1 = .handle false := by
    simp only [direct, call, connect, Caller.connectDirect, host, user]
    rfl
  refine ⟨error, answer, left, ?_, ?_⟩
  · cases null.symm.trans denied
    exact asked
  · simp only [refused, call, connect, Caller.connectDirect, spoilt]
    rfl

end

/-- A builder connects to the default of its configuration as it does once the host and port that stand there are
set as overrides. -/
theorem default_connects_as_override [Formats] (reads : Formats.ReadsAddresses) {client : Client Memory.engine}
    {name : String} {builder : Builder}
    (there : client.builders.get? name = some builder) (hostless : builder.host = none)
    (portless : builder.port = none) {value host : String} {port : Option UInt16}
    (configured : builder.snapshot.get? "fs.defaultFS" = some value) (nonempty : host ≠ "")
    (known : ∀ c ∈ host.toList, Url.isHostChar c = true) (spelled : Url.Spelled "hdfs" host port value)
    (sensible : port ≠ some 0) {given : Given} (named : textOf? given = some host)
    (setter thread : Nat) (into : Handle) :
    let setters := Change.host given :: port.toList.map Change.port
    let overridden := (client.run (setters.map fun change => (setter, .changeBuilder (some name) change))).2
    let call := .connectBuilder (some name) into
    let found := client.call thread call
    let led := overridden.call thread call
    Memory.address? builder.options builder.endpoint = some (host, port.getD 8020) ∧
      (overridden.builders.get? name).map Builder.endpoint = some (.explicit host (port.getD 8020)) ∧
      led.1 = found.1 ∧ Twins Ambient.Renoted found.2 { led.2 with builders := client.builders } := by
  intro setters overridden
  have welcome : ∀ change ∈ setters, change.Welcome := by
    refine List.forall_mem_cons.mpr ⟨Change.welcome_host (optionalOf?_of_textOf? named), fun change member => ?_⟩
    obtain ⟨port, -, rfl⟩ := List.mem_map.mp member
    exact Change.welcome_port port
  obtain ⟨kept, others⟩ := run_welcome there setter setters welcome
  have held : overridden.builders.get? name = some { builder with host := some host, port } :=
    kept.trans (congrArg some (builder.after_address (optionalOf?_of_textOf? named) portless sensible))
  have others : { overridden with builders := client.builders } = client := others
  clear_value overridden
  intro call found led
  have caller : overridden.caller thread = client.caller thread := (congrArg (Client.caller · thread) others :)
  have itself : Twins Ambient.Renoted client { overridden with builders := client.builders } := by
    rw [others]
    exact .of client (.refl client.scene.ambient)
  obtain ⟨address, made⟩ := Memory.connectBuilder_renoted reads (client.caller thread) hostless portless configured
    nonempty known spelled
  have connected := connected_renoted .memory itself thread into made
  rw [held]
  refine ⟨address, rfl, ?_⟩
  rw [show found = _ from call_connectBuilder there thread into, show led = _ from call_connectBuilder held thread into,
    caller]
  exact ⟨congrArg Answer.handle connected.1, connected.2⟩

/-- A builder whose default file system stands in this text. -/
def configuredFor (value : String) : Client Memory.engine :=
  { unconfigured with
    builders := ⟨[("b", { snapshot := Snapshot.empty.withValue "fs.defaultFS" value })]⟩ }

open scoped Formats.Standard

/-- Blanks around a default make no difference. -/
theorem padded_default_connects_as_override :
    let client := configuredFor "\thdfs://nn:9000 "
    let overridden := (client.run [(1, .changeBuilder (some "b") (.host (some [110, 110]))),
      (1, .changeBuilder (some "b") (.port 9000))]).2
    let found := client.call 0 (.connectBuilder (some "b") (some "s"))
    let led := overridden.call 0 (.connectBuilder (some "b") (some "s"))
    (overridden.builders.get? "b").map Builder.endpoint = some (.explicit "nn" 9000) ∧
      led.1 = found.1 ∧ Twins Ambient.Renoted found.2 { led.2 with builders := client.builders } := by
  have spelled : Url.Spelled "hdfs" "nn" (some 9000) "\thdfs://nn:9000 " :=
    .around ['\t'] [' '] _ (List.forall_mem_cons.mpr ⟨rfl, List.forall_mem_singleton.mpr rfl⟩)
      (.present ['9', '0', '0', '0'] 9000 rfl)
  have named : textOf? (some [110, 110]) = some "nn" := textOf?_of_encode rfl
  have there : (configuredFor "\thdfs://nn:9000 ").builders.get? "b" =
    some { snapshot := Snapshot.empty.withValue "fs.defaultFS" "\thdfs://nn:9000 " } := rfl
  have configured : (Snapshot.empty.withValue "fs.defaultFS" "\thdfs://nn:9000 ").get? "fs.defaultFS" =
    some "\thdfs://nn:9000 " := rfl
  exact (default_connects_as_override Formats.Standard.readsAddresses there rfl rfl configured (by decide)
    (List.all_eq_true.mp rfl) spelled (by decide) named 1 0 (some "s")).2

end Client
end DfsClient
