import DfsClient.Formats.Standard
import DfsClient.Proofs.Accounting
import DfsClient.Proofs.DefaultEndpoint
import DfsClient.Proofs.Services
import Mathlib.Data.List.Induction

/-! What listens where. Endpoints are kept as texts, but no two pairs of a host and a port are written alike, so
that an engine's endpoints are a map from such pairs. A connect reaches the cluster that was added last at its pair,
unless one was removed there since. -/

namespace DfsClient
open Memory

namespace Memory

/-- Where a cluster may listen. -/
structure Place where
  engine : EngineId
  host : String
  port : UInt16
deriving DecidableEq

/-- A list is parted in one way only by the last occurrence of an element. -/
theorem append_cons_last {α : Type} {a : α} {before after before' after' : List α} (last : a ∉ after)
    (last' : a ∉ after') (same : before ++ a :: after = before' ++ a :: after') : before = before' ∧ after = after' := by
  obtain ⟨between, rfl, rest⟩ | ⟨between, rfl, rest⟩ := List.append_eq_append_iff.mp same
  · cases between with
    | nil =>
      cases rest
      exact ⟨(List.append_nil _).symm, rfl⟩
    | cons b between =>
      cases rest
      exact absurd (List.mem_append_right between List.mem_cons_self) last
  · cases between with
    | nil =>
      cases rest
      exact ⟨List.append_nil _, rfl⟩
    | cons b between =>
      cases rest
      exact absurd (List.mem_append_right between List.mem_cons_self) last'

theorem colon_notin_number (n : Nat) : ':' ∉ (toString n).toList := by
  intro inside
  have digits : (toString n).toList = Nat.toDigits 10 n := Nat.toList_repr
  cases Text.isDigit_toDigits (digits ▸ inside)

/-- A host may hold colons and digits, but a port holds digits only: the last colon is the one in between. -/
theorem endpoint_injective {host other : String} {port another : UInt16}
    (same : endpoint host port = endpoint other another) : host = other ∧ port = another := by
  have letters := congrArg String.toList same
  simp only [endpoint, String.toList_append, List.append_assoc] at letters
  obtain ⟨hosts, numbers⟩ := append_cons_last (colon_notin_number _) (colon_notin_number _) letters
  refine ⟨String.toList_injective hosts, ?_⟩
  have read := port?_toString port
  rw [String.toList_injective numbers, port?_toString] at read
  exact (Option.some.inj read).symm

namespace World

variable {world : World} {place : Place}

def listener? (world : World) (place : Place) : Option ClusterId :=
  world.reach? place.engine place.host place.port

/-- Nothing listens at engines that were not made yet. -/
def Blank (world : World) : Prop := ∀ id, world.engineCount ≤ id → (world.engines id).endpoints = {}

theorem Blank.vacant (blank : world.Blank) (unmade : ¬ place.engine < world.engineCount) :
    world.listener? place = none := by
  unfold listener? reach?
  rw [blank place.engine (Nat.le_of_not_lt unmade)]
  rfl

end World
end Memory

/-- The place at which a step adds or removes a cluster. -/
def Act.place? : Act → Option Place
  | .addCluster engine host port _ | .removeCluster engine host port => some ⟨engine, host, port⟩
  | _ => none

namespace Memory.World

variable {world : World} {place : Place}

/-- A change of endpoints that leaves alone all texts but one leaves alone all places but one. -/
theorem listener?_setEngine_other {engine : EngineId} {host : String} {port : UInt16} {endpoints : Table ClusterId}
    (elsewhere : ∀ text, text ≠ endpoint host port →
      endpoints.get? text = (world.engines engine).endpoints.get? text)
    (differ : (⟨engine, host, port⟩ : Place) ≠ place) :
    (world.setEngine engine { world.engines engine with endpoints }).listener? place = world.listener? place := by
  obtain ⟨other, name, number⟩ := place
  unfold listener? reach?
  by_cases same : other = engine
  · subst same
    rw [engines_setEngine_same]
    apply elsewhere
    intro alike
    obtain ⟨rfl, rfl⟩ := endpoint_injective alike
    exact differ rfl
  · rw [engines_setEngine_other _ _ same]

theorem Blank.endpoints_installNew (blank : world.Blank) (id : EngineId) :
    (world.installNew.engines id).endpoints = (world.engines id).endpoints :=
  forall_setEngine (P := fun id engine => engine.endpoints = (world.engines id).endpoints)
    (blank world.engineCount (Nat.le_refl _)).symm (fun _ => rfl) id

theorem listener?_edit_other (blank : world.Blank) {act : Act} (differ : act.place? ≠ some place) :
    (act.edit world).listener? place = world.listener? place := by
  cases act with
  | addCluster engine host port name =>
    simp only [Act.edit]
    split
    · exact listener?_setEngine_other (fun text => Table.get?_set_other _ _) (ne_of_apply_ne some differ)
    · rfl
  | removeCluster engine host port =>
    simp only [Act.edit]
    split
    · exact listener?_setEngine_other (fun text => Table.get?_erase_other _) (ne_of_apply_ne some differ)
    · rfl
  | installNew => exact congrArg (Table.get? · _) (blank.endpoints_installNew place.engine)
  | install engine =>
    simp only [Act.edit]
    split
    · rfl
    · rfl
  | _ => rfl

theorem listener?_addCluster (blank : world.Blank) (place : Place) (name : String) (id : ClusterId) :
    ((Act.addCluster place.engine place.host place.port name).edit world).listener? place = some id ↔
      place.engine < world.engineCount ∧ (world.addCluster place.engine place.host place.port name).1 = id := by
  simp only [Act.edit]
  split
  next made =>
    have registered : (world.addCluster place.engine place.host place.port name).2.listener? place =
        some (world.addCluster place.engine place.host place.port name).1 := by
      unfold listener? reach? addCluster
      dsimp only
      rw [engines_setEngine_same]
      exact Table.get?_set_same ..
    rw [registered, Option.some.injEq, and_iff_right made]
  next unmade =>
    rw [blank.vacant unmade]
    exact iff_of_false (Option.some_ne_none id).symm fun added => unmade added.1

theorem listener?_removeCluster (blank : world.Blank) (place : Place) :
    ((Act.removeCluster place.engine place.host place.port).edit world).listener? place = none := by
  simp only [Act.edit]
  split
  next made =>
    unfold listener? reach? removeCluster
    rw [engines_setEngine_same]
    exact Table.get?_erase_same ..
  next unmade => exact blank.vacant unmade

theorem Blank.setEngine (blank : world.Blank) {id : EngineId} {engine : Instance}
    (fine : world.engineCount ≤ id → engine.endpoints = {}) : (world.setEngine id engine).Blank :=
  forall_setEngine (P := fun other engine => world.engineCount ≤ other → engine.endpoints = {}) fine blank

theorem Blank.edit (blank : world.Blank) (act : Act) : (act.edit world).Blank := by
  cases act with
  | addCluster engine host port name =>
    simp only [Act.edit]
    split
    next made =>
      have grown : World.Blank { world with clusterCount := world.clusterCount + 1 } := blank
      exact grown.setEngine fun unmade => absurd made (Nat.not_lt.mpr unmade)
    next => exact blank
  | removeCluster engine host port =>
    simp only [Act.edit]
    split
    next made => exact blank.setEngine fun unmade => absurd made (Nat.not_lt.mpr unmade)
    next => exact blank
  | installNew =>
    have set : (world.setEngine world.engineCount {}).Blank := blank.setEngine fun _ => rfl
    exact fun id unmade => set id (Nat.le_of_succ_le unmade)
  | install engine =>
    simp only [Act.edit]
    split
    · exact blank
    · exact blank
  | _ => exact blank

/-- A cluster that was made denies whom it denied before, and whom the step makes it deny. -/
theorem denied_edit {id : ClusterId} (made : id < world.clusterCount) (user : String) (act : Act) :
    user ∈ ((act.edit world).clusters id).denied ↔
      .denyUser id user = act ∨ user ∈ (world.clusters id).denied := by
  cases act with
  | denyUser cluster other =>
    by_cases same : id = cluster
    · subst same
      simp only [Act.edit, clusters_setCluster_same, Cluster.denyUser, List.mem_cons, Act.denyUser.injEq, true_and]
    · simp only [Act.edit, clusters_setCluster_other _ _ same, Act.denyUser.injEq, same, false_and, false_or]
  | putFile | removeFile =>
    simp only [Act.edit, reduceCtorEq, false_or]
    apply iff_of_eq
    apply congrArg (user ∈ ·)
    apply view_setCluster Cluster.denied
    rfl
  | addCluster engine host port name =>
    simp only [Act.edit, reduceCtorEq, false_or]
    split
    · exact iff_of_eq (congrArg (user ∈ Cluster.denied ·) (clusters_setCluster_other _ _ (Nat.ne_of_lt made)))
    · exact Iff.rfl
  | install | removeCluster =>
    simp only [Act.edit, reduceCtorEq, false_or]
    split
    · exact Iff.rfl
    · exact Iff.rfl
  | call | installNew | surround => simp [Act.edit, installNew, setEngine]

end Memory.World

namespace Holdings

variable {held after : Holdings} {thread : Nat} {call : Call} {answer : Answer}

theorem endpoints_worldWithout (world : World) (surplus : Option Session) (id : EngineId) :
    ((worldWithout world surplus).engines id).endpoints = (world.engines id).endpoints := by
  cases surplus with
  | none => rfl
  | some session => exact world.endpoints_setServices session.engine _ id

/-- A call makes no engine, and nothing that it does is seen in endpoints. -/
theorem Changes.endpoints_eq (changes : Changes thread held call answer after) :
    after.world.engineCount = held.world.engineCount ∧
      ∀ id, (after.world.engines id).endpoints = (held.world.engines id).endpoints := by
  cases changes with
  | connects =>
    refine ⟨(worldWithout_keeps ..).2, fun id => (endpoints_worldWithout ..).trans ?_⟩
    exact held.world.endpoints_setServices held.world.installed _ id
  | connectsNot | disconnects => exact ⟨(worldWithout_keeps ..).2, endpoints_worldWithout _ _⟩
  | _ => exact ⟨rfl, fun _ => rfl⟩

end Holdings

namespace Client

variable {client : Client engine} {place : Place}

section
variable [Formats]

theorem act_blank (client : Client engine) (act : Act) (blank : client.holdings.world.Blank) :
    (client.act act).2.holdings.world.Blank := by
  obtain ⟨thread, call, rfl⟩ | ⟨-, edited⟩ := act_edits client act
  · obtain ⟨engines, endpoints⟩ := (call_changes client thread call).endpoints_eq
    exact fun id unmade => (endpoints id).trans (blank id (engines ▸ unmade))
  · rw [edited]
    exact blank.edit act

theorem act_listener?_other (blank : client.holdings.world.Blank) {act : Act} (differ : act.place? ≠ some place) :
    (client.act act).2.holdings.world.listener? place = client.holdings.world.listener? place := by
  obtain ⟨thread, call, rfl⟩ | ⟨-, edited⟩ := act_edits client act
  · obtain ⟨-, endpoints⟩ := (call_changes client thread call).endpoints_eq
    exact congrArg (Table.get? · _) (endpoints place.engine)
  · rw [edited]
    exact World.listener?_edit_other blank differ

theorem acts_listener?_other (blank : client.holdings.world.Blank) {history : List Act}
    (others : ∀ act ∈ history, act.place? ≠ some place) :
    (client.acts history).2.holdings.world.listener? place = client.holdings.world.listener? place := by
  induction history generalizing client with
  | nil => rfl
  | cons act rest ih =>
    obtain ⟨first, later⟩ := List.forall_mem_cons.mp others
    exact (ih (act_blank client act blank) later).trans (act_listener?_other blank first)

theorem acts_denied {id : ClusterId} (made : id < client.holdings.world.clusterCount) (user : String)
    (history : List Act) :
    user ∈ ((client.acts history).2.holdings.world.clusters id).denied ↔
      .denyUser id user ∈ history ∨ user ∈ (client.holdings.world.clusters id).denied := by
  induction history generalizing client with
  | nil => exact ⟨.inr, fun either => either.resolve_left List.not_mem_nil⟩
  | cons act rest ih =>
    have step : user ∈ ((client.act act).2.holdings.world.clusters id).denied ↔
        .denyUser id user = act ∨ user ∈ (client.holdings.world.clusters id).denied := by
      obtain ⟨thread, call, rfl⟩ | ⟨-, edited⟩ := act_edits client act
      · change user ∈ ((client.call thread call).2.holdings.world.clusters id).denied ↔ _
        simp only [(call_changes client thread call).clusters_eq.1, reduceCtorEq, false_or]
      · rw [edited]
        exact World.denied_edit made user act
    refine (ih (act_made client act made)).trans ?_
    rw [step, List.mem_cons, or_left_comm, or_assoc]

/-- A step of a history adds this cluster at a place. `since` are the steps after it. -/
def Registers (client : Client engine) (history : List Act) (place : Place) (id : ClusterId) (since : List Act) : Prop :=
  ∃ before name, history = before ++ .addCluster place.engine place.host place.port name :: since ∧
    let world := (client.acts before).2.scene.world
    place.engine < world.engineCount ∧ (world.addCluster place.engine place.host place.port name).1 = id

/-- A cluster listens at a place if it was added there, and no step since then adds or removes one there. -/
def Listens (client : Client engine) (history : List Act) (place : Place) (id : ClusterId) (since : List Act) : Prop :=
  client.Registers history place id since ∧ ∀ act ∈ since, act.place? ≠ some place

/-- What listens after one more step was added by that step, or listened before and the step is elsewhere. -/
theorem listens_concat {past : List Act} {act : Act} {id : ClusterId} :
    (∃ since, client.Listens (past ++ [act]) place id since) ↔
      (∃ name, act = .addCluster place.engine place.host place.port name ∧
        let world := (client.acts past).2.scene.world
        place.engine < world.engineCount ∧ (world.addCluster place.engine place.host place.port name).1 = id) ∨
      act.place? ≠ some place ∧ ∃ since, client.Listens past place id since := by
  constructor
  · rintro ⟨since, ⟨before, name, split, added⟩, unmoved⟩
    obtain rfl | ⟨earlier, last, rfl⟩ := since.eq_nil_or_concat'
    · obtain ⟨rfl, same⟩ := List.append_inj' split rfl
      cases same
      exact .inl ⟨name, rfl, added⟩
    · rw [← List.cons_append, ← List.append_assoc] at split
      obtain ⟨rfl, same⟩ := List.append_inj' split rfl
      cases same
      obtain ⟨unmoved, elsewhere⟩ := List.forall_mem_append.mp unmoved
      exact .inr ⟨elsewhere act List.mem_cons_self, earlier, ⟨before, name, rfl, added⟩, unmoved⟩
  · rintro (⟨name, rfl, added⟩ | ⟨elsewhere, since, ⟨before, name, rfl, added⟩, unmoved⟩)
    · exact ⟨[], ⟨past, name, rfl, added⟩, nofun⟩
    · refine ⟨since ++ [act], ⟨before, name, by simp, added⟩, ?_⟩
      exact List.forall_mem_append.mpr ⟨unmoved, List.forall_mem_singleton.mpr elsewhere⟩

/-- What a place leads to is what listens there. -/
theorem listener?_acts (blank : client.holdings.world.Blank) (place : Place)
    (vacant : client.holdings.world.listener? place = none) (history : List Act) (id : ClusterId) :
    (client.acts history).2.holdings.world.listener? place = some id ↔
      ∃ since, client.Listens history place id since := by
  -- What was done last counts, so the history is taken from its end.
  induction history using List.reverseRecOn with
  | nil =>
    refine iff_of_false (vacant ▸ nofun) ?_
    rintro ⟨since, ⟨before, name, split, -⟩, -⟩
    exact absurd split (by simp)
  | append_singleton past act ih =>
    have blank : (client.acts past).2.holdings.world.Blank := acts_induction act_blank client past blank
    rw [acts_concat, listens_concat]
    by_cases here : act.place? = some place
    · rw [or_iff_left fun elsewhere => elsewhere.1 here]
      cases act with
      | addCluster engine host port name =>
        cases here
        refine (World.listener?_addCluster blank ⟨engine, host, port⟩ name id).trans ?_
        refine ⟨fun added => ⟨name, rfl, added⟩, ?_⟩
        rintro ⟨name, same, added⟩
        cases same
        exact added
      | removeCluster engine host port =>
        cases here
        refine (Eq.congr_left (World.listener?_removeCluster blank ⟨engine, host, port⟩)).trans ?_
        refine iff_of_false (Option.some_ne_none id).symm ?_
        rintro ⟨name, same, -⟩
        cases same
      | _ => cases here
    · rw [act_listener?_other blank here, ih]
      constructor
      · exact fun listens => .inr ⟨here, listens⟩
      · rintro (⟨name, rfl, -⟩ | ⟨-, listens⟩)
        · exact absurd rfl here
        · exact listens

/-- Right after it was added, a cluster is known by its number and denies nobody. -/
theorem act_addCluster (client : Client engine) (place : Place) (name : String)
    (made : place.engine < client.scene.world.engineCount) :
    let (id, world) := client.scene.world.addCluster place.engine place.host place.port name
    (client.act (.addCluster place.engine place.host place.port name)).2.holdings.world = world ∧
      id < world.clusterCount ∧ (world.clusters id).denied = [] := by
  refine ⟨if_pos made, Nat.lt_succ_self _, ?_⟩
  exact congrArg Cluster.denied (World.clusters_setCluster_same ..)

end

variable {history since : List Act} {id : ClusterId} [Formats]

theorem Registers.made (registers : client.Registers history place id since) :
    id < (client.acts history).2.holdings.world.clusterCount := by
  obtain ⟨before, name, rfl, made, rfl⟩ := registers
  obtain ⟨world, counted, -⟩ := act_addCluster (client.acts before).2 place name made
  rw [acts_append]
  exact acts_induction act_made ((client.acts before).2.act _).2 since (world ▸ counted)

/-- A cluster denies the users that it was told to deny since it was added. -/
theorem Registers.denies (registers : client.Registers history place id since) (user : String) :
    ((client.acts history).2.scene.world.clusters id).denies user = true ↔ .denyUser id user ∈ since := by
  obtain ⟨before, name, rfl, made, rfl⟩ := registers
  obtain ⟨world, counted, nobody⟩ := act_addCluster (client.acts before).2 place name made
  rw [← world] at counted nobody
  rw [acts_append, Cluster.denies, List.contains_iff_mem]
  refine (acts_denied counted user since).trans (or_iff_left ?_)
  rw [nobody]
  exact List.not_mem_nil

/-- A cluster gets a number that none has that was added before. -/
theorem Registers.ne_later {before : List Act} (registers : client.Registers before place id since) {other : Place}
    {name : String} :
    ((client.acts before).2.scene.world.addCluster other.engine other.host other.port name).1 ≠ id :=
  Nat.ne_of_gt registers.made

/-- No two steps add the same cluster. -/
theorem Registers.unique {other : Place} {later : List Act} (one : client.Registers history place id since)
    (another : client.Registers history other id later) : place = other ∧ since = later := by
  obtain ⟨before, name, split, made, first⟩ := one
  obtain ⟨before', name', split', made', second⟩ := another
  obtain ⟨between, rfl, rest⟩ | ⟨between, rfl, rest⟩ := List.append_eq_append_iff.mp (split.symm.trans split')
  · cases between with
    | nil =>
      cases place
      cases other
      cases rest
      exact ⟨rfl, rfl⟩
    | cons step between =>
      cases rest
      have earlier : client.Registers _ place id between := ⟨before, name, rfl, made, first⟩
      exact absurd second earlier.ne_later
  · cases between with
    | nil =>
      cases place
      cases other
      cases rest
      exact ⟨rfl, rfl⟩
    | cons step between =>
      cases rest
      have earlier : client.Registers _ other id between := ⟨before', name', rfl, made', second⟩
      exact absurd first earlier.ne_later

end Client

namespace Memory.Session

variable {session : Session} {service : String} {port : UInt16}

theorem connect_unheard (unheard : session.observer = none) (written : port? service = some port) (host : String)
    (ambient : Ambient) (world : World) :
    ∃ after, session.connect host service ⟨ambient, world⟩ =
      session.arrive (endpoint host port) (world.reach? session.engine host port) after ∧ after.world = world := by
  unfold connect
  rw [written]
  exact connectTo_unheard unheard host port ⟨ambient, world⟩

/-- What comes of a connect depends on the cluster that is reached, and on whether that denies the user. -/
theorem connect_alike (unheard : session.observer = none) (written : port? service = some port) (host : String)
    (ambient : Ambient) {one other : World}
    (reached : other.reach? session.engine host port = one.reach? session.engine host port)
    (denies : ∀ id, one.reach? session.engine host port = some id →
      (other.clusters id).denies session.user = (one.clusters id).denies session.user) :
    (session.connect host service ⟨ambient, other⟩).1 = (session.connect host service ⟨ambient, one⟩).1 ∧
      (session.connect host service ⟨ambient, other⟩).2.1 = (session.connect host service ⟨ambient, one⟩).2.1 := by
  obtain ⟨after, lands, rfl⟩ := connect_unheard unheard written host ambient one
  obtain ⟨after', lands', rfl⟩ := connect_unheard unheard written host ambient other
  rw [lands, lands', reached]
  cases listener : after.world.reach? session.engine host port with
  | none => exact ⟨rfl, rfl⟩
  | some id =>
    dsimp only [arrive]
    rw [denies id listener]
    split
    · exact ⟨rfl, rfl⟩
    · exact ⟨rfl, rfl⟩

theorem connect_ends (unheard : session.observer = none) (written : port? service = some port) (host : String)
    (ambient : Ambient) (world : World) :
    let got := session.connect host service ⟨ambient, world⟩
    let reached := world.reach? session.engine host port
    (∀ id, got.1 = .ok () ∧ got.2.1 = { session with cluster := some id } ↔
      reached = some id ∧ (world.clusters id).denies session.user = false) ∧
    (got.1 = .failed (.resourceUnavailable ("Unable to connect to " ++ endpoint host port)) ↔ reached = none) ∧
    (got.1 = .failed (.permissionDenied ("Permission denied: user=" ++ session.user)) ↔
      ∃ id, reached = some id ∧ (world.clusters id).denies session.user = true) ∧
    (got.1 ≠ .ok () → got.2.1 = session) := by
  intro got reached
  obtain ⟨after, lands, rfl⟩ := connect_unheard unheard written host ambient world
  change got = session.arrive _ reached after at lands
  rw [lands]
  cases reached with
  | none => simp [arrive, Result.ok, Result.failed, Status.resourceUnavailable, Status.permissionDenied]
  | some id =>
    cases denied : (after.world.clusters id).denies session.user
    all_goals simp [arrive, denied, Result.ok, Result.failed, Status.resourceUnavailable, Status.permissionDenied]

end Memory.Session

namespace Client
open Memory.Session

variable {client : Client engine} {place : Place} {history others : List Act}

/-- Steps at other places change neither what listens at a place nor whom that denies. -/
theorem acts_elsewhere [Formats] (blank : client.holdings.world.Blank) (charted : client.holdings.world.Charted)
    (elsewhere : ∀ act ∈ others, ∃ other, act.place? = some other ∧ other ≠ place) :
    (client.acts others).2.holdings.world.listener? place = client.holdings.world.listener? place ∧
      ∀ id, client.holdings.world.listener? place = some id → ∀ user,
        ((client.acts others).2.holdings.world.clusters id).denies user =
          (client.holdings.world.clusters id).denies user := by
  constructor
  · apply acts_listener?_other blank
    intro act member here
    obtain ⟨other, there, differ⟩ := elsewhere act member
    exact differ (Option.some.inj (there.symm.trans here))
  · intro id listens user
    have made : id < client.holdings.world.clusterCount := charted place.engine _ id listens
    rw [Cluster.denies, Cluster.denies, Bool.eq_iff_iff, List.contains_iff_mem, List.contains_iff_mem]
    refine (acts_denied made user others).trans (or_iff_right fun denies => ?_)
    obtain ⟨other, there, -⟩ := elsewhere _ denies
    cases there

/-- What a connect reaches that no observer hears of. It is the cluster that was added last at the pair of
the host and the port, unless one was removed there since. If there is none, or if it was told since to deny this
user, the connect fails and leaves the session as it is. Steps at other pairs, however alike they are written,
do not show. A removal takes away what listens, and no two clusters that were added are the same. -/
theorem registry_maps_pairs [Formats] (tree : Config.FileTree) (environment : Config.Variables) (replies : Replies)
    (history : List Act) {session : Session} (unheard : session.observer = none) {service : String} {port : UInt16}
    (written : port? service = some port) (host : String) (ambient : Ambient) :
    let client := start tree environment replies
    let world (history : List Act) := (client.acts history).2.scene.world
    let got := session.connect host service ⟨ambient, world history⟩
    let place : Place := ⟨session.engine, host, port⟩
    (∀ id, got.1 = .ok () ∧ got.2.1 = { session with cluster := some id } ↔
      ∃ since, client.Listens history place id since ∧ .denyUser id session.user ∉ since) ∧
    (got.1 = .failed (.resourceUnavailable ("Unable to connect to " ++ endpoint host port)) ↔
      ∀ id since, ¬ client.Listens history place id since) ∧
    (got.1 = .failed (.permissionDenied ("Permission denied: user=" ++ session.user)) ↔
      ∃ id since, client.Listens history place id since ∧ .denyUser id session.user ∈ since) ∧
    (got.1 ≠ .ok () → got.2.1 = session) ∧
    (∀ others : List Act, (∀ act ∈ others, ∃ other, act.place? = some other ∧ other ≠ place) →
      let again := session.connect host service ⟨ambient, world (history ++ others)⟩
      again.1 = got.1 ∧ again.2.1 = got.2.1) ∧
    (∀ id, ((world history).removeCluster session.engine host port).1 = some id ↔
      ∃ since, client.Listens history place id since) ∧
    ∀ other id since later, client.Registers history place id since → client.Registers history other id later →
      place = other ∧ since = later := by
  intro client world
  dsimp only
  have blank : client.holdings.world.Blank := fun _ _ => rfl
  have listener (id : ClusterId) : (world history).reach? session.engine host port = some id ↔
      ∃ since, client.Listens history ⟨session.engine, host, port⟩ id since :=
    listener?_acts blank ⟨session.engine, host, port⟩ rfl history id
  obtain ⟨reaches, vacant, refused, kept⟩ := connect_ends unheard written host ambient (world history)
  refine ⟨fun id => ?_, ?_, ?_, kept, fun others elsewhere => ?_, listener,
    fun other id since later one another => one.unique another⟩
  · rw [reaches id, listener, ← exists_and_right]
    refine exists_congr fun since => and_congr_right fun listens => ?_
    rw [← listens.1.denies, Bool.not_eq_true]
  · rw [vacant, Option.eq_none_iff_forall_ne_some]
    exact forall_congr' fun id => (not_congr (listener id)).trans not_exists
  · rw [refused]
    refine exists_congr fun id => ?_
    rw [listener, ← exists_and_right]
    exact exists_congr fun since => and_congr_right fun listens => listens.1.denies session.user
  · obtain ⟨reached, denied⟩ := acts_elsewhere (acts_induction act_blank client history blank)
      (reached_charted tree environment replies history) elsewhere
    rw [← acts_append] at reached denied
    exact connect_alike unheard written host ambient reached fun id listens => denied id listens session.user

open scoped Formats.Standard

theorem similar_pairs_do_not_show :
    let client := start ⟨fun _ => .missing⟩ {} fun _ _ _ => 0
    let added : List Act := [.addCluster 0 "a:1" 2 "c"]
    let similar : List Act := [.addCluster 0 "a" 12 "d", .removeCluster 0 "a:" 12, .removeCluster 0 "a:1:2" 2]
    let session : Session := { engine := 0, user := "u", options := {} }
    let got := session.connect "a:1" "2" ⟨{}, (client.acts (added ++ similar)).2.scene.world⟩
    port? "2" = some 2 ∧ (∀ act ∈ similar, ∃ other, act.place? = some other ∧ other ≠ ⟨0, "a:1", 2⟩) ∧
      got.1 = .ok () ∧ got.2.1.cluster = some 0 := by
  intro client added similar session got
  have written : port? "2" = some 2 := port?_toString 2
  have apart : ∀ act ∈ similar, ∃ other, act.place? = some other ∧ other ≠ ⟨0, "a:1", 2⟩ :=
    List.forall_mem_cons.mpr ⟨⟨_, rfl, by decide⟩,
      List.forall_mem_cons.mpr ⟨⟨_, rfl, by decide⟩, List.forall_mem_singleton.mpr ⟨_, rfl, by decide⟩⟩⟩
  have unheard : session.observer = none := rfl
  obtain ⟨reaches, -, -, -, unshown, -⟩ := registry_maps_pairs ⟨fun _ => .missing⟩ {} (fun _ _ _ => 0) added unheard
    written "a:1" {}
  have listens : client.Listens added ⟨0, "a:1", 2⟩ 0 [] := ⟨⟨[], "c", rfl, Nat.zero_lt_one, rfl⟩, nofun⟩
  obtain ⟨result, bound⟩ := (reaches 0).mpr ⟨[], listens, List.not_mem_nil⟩
  obtain ⟨result', bound'⟩ := unshown similar apart
  exact ⟨written, apart, result'.trans result, congrArg Session.cluster (bound'.trans bound)⟩

end Client
end DfsClient
