import DfsClient.Proofs.Authorities
import DfsClient.Proofs.Lockstep

/-! Where the default file system is looked for. A default of a scheme, a host and possibly a port is looked for
on that host. Its port is the one that is written, unless that is the usual one of the scheme: then, as without a
port, it is the usual one of namenodes. -/

namespace DfsClient
open Boundary

namespace Options

theorem defaultFs_ofSnapshot [Formats] {snapshot : Snapshot} {value : String}
    (configured : snapshot.get? defaultFsKey = some value) :
    (ofSnapshot snapshot).defaultFs = Snapshot.urlOf? value := by
  change (snapshot.get? defaultFsKey).bind Snapshot.urlOf? = _
  rw [configured, Option.bind_some]

end Options

/-- The port at which a default with this scheme and port is looked for. -/
def contactedPort (scheme : String) (port : Option UInt16) : UInt16 :=
  if Url.usualPort? (Text.fold scheme) = port then 8020 else port.getD 8020

theorem getD_shownPort (scheme : String) (port : Option UInt16) :
    (Url.shownPort (Text.fold scheme) port).getD 8020 = contactedPort scheme port := by
  unfold Url.shownPort contactedPort
  cases port with
  | none => simp
  | some port =>
    rw [Option.filter_some]
    by_cases usual : Url.usualPort? (Text.fold scheme) = some port
    · simp [usual]
    · simp [usual]

/-- A written port that is not contacted is the usual one of its scheme. -/
theorem contactedPort_other {scheme : String} {port : UInt16} (other : contactedPort scheme (some port) ≠ port) :
    contactedPort scheme (some port) = 8020 ∧ Url.usualPort? (Text.fold scheme) = some port := by
  unfold contactedPort at other ⊢
  split
  next usual => exact ⟨rfl, usual⟩
  next unusual =>
    rw [if_neg unusual] at other
    exact absurd rfl other

namespace Memory

variable {session : Session}

/-- An endpoint that stands for an address is connected to there, whichever way the address was found. -/
theorem reach_address {endpoint : Endpoint} {host : String} {port : UInt16}
    (address : address? session.options endpoint = some (host, port)) (scene : Scene World) :
    @reach Memory.engine session endpoint scene = session.connectTo host port scene := by
  have arrives (host : String) (port : UInt16) :
      session.connect host (toString port.toNat) scene = session.connectTo host port scene := by
    rw [Session.connect, port?_toString]
  unfold reach
  cases endpoint with
  | explicit =>
    cases address
    rw [engine_connect]
    exact arrives host port
  | defaultFs =>
    obtain ⟨url, configured, named⟩ := Option.bind_eq_some_iff.mp address
    obtain ⟨_, host?, same⟩ := Option.map_eq_some_iff.mp named
    cases same
    rw [engine_connectDefault]
    dsimp only
    rw [Session.connectDefault, configured]
    dsimp only
    rw [host?]
    exact arrives host _

namespace Session

/-- What a connect comes to that no observer hears of. -/
theorem connectTo_unheard (unheard : session.observer = none) (host : String) (port : UInt16) (scene : Scene World) :
    ∃ after, session.connectTo host port scene =
      session.arrive (endpoint host port) (scene.world.reach? session.engine host port) after ∧
      after.world = scene.world := by
  rw [connectTo_eq, unheard]
  exact ⟨_, rfl, rfl⟩

variable {scheme host value : String} {port : Option UInt16}

theorem connectDefault_letters [Formats] (reads : Formats.ReadsAddresses)
    (configured : session.options.defaultFs = Snapshot.urlOf? value)
    (isScheme : Url.IsScheme scheme.toList) (remote : Text.fold scheme ≠ "file") (nonempty : host ≠ "")
    (lower : ∀ c ∈ host.toList, c.isLower = true) (spelled : Url.Spelled scheme host port value) (scene : Scene World) :
    session.connectDefault scene = session.connectTo host (contactedPort scheme port) scene := by
  obtain ⟨url, parsed, host?, port?⟩ := Url.urlOf?_letters reads isScheme remote nonempty lower spelled
  have address : address? session.options .defaultFs = some (host, contactedPort scheme port) := by
    rw [address?, configured?, configured, parsed, Option.bind_some, host?, Option.map_some, port?, getD_shownPort]
  have reached := reach_address address scene
  unfold reach at reached
  dsimp only at reached
  rw [engine_connectDefault] at reached
  exact reached

/-- A session finds the default of its configuration on the host that is written there. It is bound to the
cluster that it reaches, unless that denies the user. The port that is written is the port that is contacted,
but for the usual one of the scheme, which counts as not written. -/
theorem default_endpoint_contacted [Formats] (reads : Formats.ReadsAddresses) {snapshot : Snapshot}
    (configured : snapshot.get? "fs.defaultFS" = some value)
    (isScheme : Url.IsScheme scheme.toList) (remote : Text.fold scheme ≠ "file") (nonempty : host ≠ "")
    (lower : ∀ c ∈ host.toList, c.isLower = true) (spelled : Url.Spelled scheme host port value)
    (options : session.options = .ofSnapshot snapshot) (scene : Scene World) :
    let contacted := contactedPort scheme port
    let reached := scene.world.reach? session.engine host contacted
    let got := session.connectDefault scene
    got = session.connectTo host contacted scene ∧
      (session.observer = none →
        (∀ id, reached = some id → (scene.world.clusters id).denies session.user = false →
          got.1 = .ok () ∧ got.2.1 = { session with cluster := some id }) ∧
        (∀ id, reached = some id → (scene.world.clusters id).denies session.user = true →
          got.1 = .failed (.permissionDenied ("Permission denied: user=" ++ session.user)) ∧ got.2.1 = session) ∧
        (reached = none → got.2.1 = session ∧
          got.1 = .failed (.resourceUnavailable ("Unable to connect to " ++ endpoint host contacted)))) ∧
      ∀ written, port = some written → contacted ≠ written →
        contacted = 8020 ∧ Url.usualPort? (Text.fold scheme) = some written := by
  intro contacted reached got
  have found : session.options.defaultFs = Snapshot.urlOf? value := by
    rw [options, Options.defaultFs_ofSnapshot configured]
  have same : got = session.connectTo host contacted scene :=
    connectDefault_letters reads found isScheme remote nonempty lower spelled scene
  refine ⟨same, fun unheard => ?_, ?_⟩
  · obtain ⟨after, arrives, world⟩ := connectTo_unheard unheard host contacted scene
    have lands : got = session.arrive (endpoint host contacted) reached after := same.trans arrives
    rw [lands, ← world]
    refine ⟨fun id bound admitted => ?_, fun id bound denied => ?_, fun nobody => ?_⟩
    · rw [bound, arrive, admitted]
      exact ⟨rfl, rfl⟩
    · rw [bound, arrive, denied]
      exact ⟨rfl, rfl⟩
    · rw [nobody]
      exact ⟨rfl, rfl⟩
  · rintro written rfl other
    exact contactedPort_other other

open scoped Formats.Standard

/-- A session with this default file system, before a cluster that listens on a host and port. -/
def seeking (value : String) : Session :=
  { engine := 0, user := "u", options := .ofSnapshot (Snapshot.empty.withValue "fs.defaultFS" value) }

def listening (host : String) (port : UInt16) : Scene World := ⟨{}, (World.addCluster {} 0 host port "c").2⟩

theorem written_port_is_contacted :
    Url.Spelled "viewfs" "nn" (some 9000) "viewfs://nn:9000" ∧
      (listening "nn" 9000).world.reach? 0 "nn" (contactedPort "viewfs" (some 9000)) = some 0 ∧
      ((seeking "viewfs://nn:9000").connectDefault (listening "nn" 9000)).2.1.cluster = some 0 := by
  have spelled : Url.Spelled "viewfs" "nn" (some 9000) "viewfs://nn:9000" :=
    .around [] [] _ nofun (.present ['9', '0', '0', '0'] 9000 rfl)
  have reached : (listening "nn" 9000).world.reach? 0 "nn" (contactedPort "viewfs" (some 9000)) = some 0 := by decide
  have configured : (Snapshot.empty.withValue "fs.defaultFS" "viewfs://nn:9000").get? "fs.defaultFS" =
    some "viewfs://nn:9000" := rfl
  have options : (seeking "viewfs://nn:9000").options = .ofSnapshot _ := rfl
  have bound := (default_endpoint_contacted Formats.Standard.readsAddresses configured
    ⟨'v', _, rfl, rfl, List.all_eq_true.mp rfl⟩ (by decide) (by decide) (List.all_eq_true.mp rfl) spelled options
    (listening "nn" 9000)).2.1 rfl
  refine ⟨spelled, reached, ?_⟩
  rw [(bound.1 0 reached rfl).2]

/-- A cluster that listens on the usual port of the web is not found there, although the default names that port. -/
theorem usual_port_is_not_contacted :
    Url.Spelled "http" "nn" (some 80) "http://nn:80" ∧
      (listening "nn" 80).world.reach? 0 "nn" 80 = some 0 ∧
      ((listening "nn" 80).world.clusters 0).denies "u" = false ∧
      ((seeking "http://nn:80").connectDefault (listening "nn" 80)).1 =
        .failed (.resourceUnavailable "Unable to connect to nn:8020") := by
  have spelled : Url.Spelled "http" "nn" (some 80) "http://nn:80" :=
    .around [] [] _ nofun (.present ['8', '0'] 80 rfl)
  refine ⟨spelled, by decide, rfl, ?_⟩
  have configured : (seeking "http://nn:80").options.defaultFs = Snapshot.urlOf? "http://nn:80" :=
    Options.defaultFs_ofSnapshot rfl
  rw [connectDefault_letters Formats.Standard.readsAddresses configured
    ⟨'h', _, rfl, rfl, List.all_eq_true.mp rfl⟩ (by decide) (by decide) (List.all_eq_true.mp rfl) spelled]
  rfl

end Session
end Memory
end DfsClient
