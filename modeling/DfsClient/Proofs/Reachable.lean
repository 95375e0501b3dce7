import DfsClient.Client.Program
import DfsClient.Proofs.Holdings

/-! What holds of all that a program with the memory engine can come to hold, whatever steps
it takes: observers are handlers, sessions are bound to clusters, cursors are within their
files, and files are no longer than a machine can hold. -/

namespace DfsClient
open Memory

structure Memory.File.Sound (file : File) : Prop where
  observer : Crossing file.observer
  position : file.position ≤ file.length
  length : file.length < 9223372036854775808

theorem Memory.File.Sound.moves {before after : File} (sound : before.Sound) (moves : before.Moves after) :
    after.Sound := by
  have seated : before.Seated := ⟨sound.length, sound.position⟩
  have kept := seated.moves moves
  exact ⟨moves.observer ▸ sound.observer, kept.position, kept.length⟩

structure Memory.Session.Sound (session : Session) : Prop where
  observer : Crossing session.observer
  bound : session.cluster.isSome = true

namespace Memory.World

/-- Every file of every cluster is one that a machine can hold. -/
def Storable (world : World) : Prop :=
  ∀ id, (world.clusters id).files.Each fun bytes => bytes.length < 9223372036854775808

theorem Storable.setCluster {world : World} (storable : world.Storable) (id : ClusterId)
    {cluster : Cluster} (good : cluster.files.Each fun bytes => bytes.length < 9223372036854775808) :
    (world.setCluster id cluster).Storable := by
  apply forall_setCluster (P := fun _ cluster => cluster.files.Each fun bytes => bytes.length < 9223372036854775808)
  · exact good
  · exact storable

theorem Storable.edit {world : World} (storable : world.Storable) (act : Act) :
    (act.edit world).Storable := by
  cases act with
  | call thread call => exact storable
  | installNew => exact storable
  | install engine =>
    simp only [Act.edit]
    split <;> exact storable
  | addCluster engine host port name =>
    simp only [Act.edit]
    split
    · exact storable.setCluster world.clusterCount fun _ _ => nofun
    · exact storable
  | removeCluster engine host port =>
    simp only [Act.edit]
    split <;> exact storable
  | putFile cluster path content =>
    exact storable.setCluster cluster ((storable cluster).set path content.property)
  | removeFile cluster path => exact storable.setCluster cluster ((storable cluster).erase path)
  | denyUser cluster user => exact storable.setCluster cluster (storable cluster)
  | surround tree environment => exact storable

end Memory.World

namespace Holdings

structure Sound (held : Holdings) : Prop where
  world : held.world.Storable
  sessions : held.sessions.Each Session.Sound
  files : held.files.Each File.Sound
  sessionObserver : ∀ thread, Crossing (held.sessionObserver thread)
  fileObserver : ∀ thread, Crossing (held.fileObserver thread)

variable {held after : Holdings}

theorem Sound.session_crossing (sound : held.Sound) (handle : Handle) (session : Session)
    (found : held.sessions.find? handle = some session) : Crossing session.observer :=
  (sound.sessions.find found).observer

theorem Sound.file_crossing (sound : held.Sound) (handle : Handle) (file : File)
    (found : held.files.find? handle = some file) : Crossing file.observer :=
  (sound.files.find found).observer

theorem crossing_handler (monitor : Option Monitor) : Crossing (monitor.map .handler) := by
  intro one there
  cases monitor with
  | none => cases there
  | some attached =>
    cases there
    exact ⟨attached, rfl⟩

theorem crossing_update {observer : Nat → Option Observer} (crossing : ∀ thread, Crossing (observer thread))
    (thread : Nat) (monitor : Option Monitor) (other : Nat) :
    Crossing (Function.update observer thread (monitor.map .handler) other) := by
  by_cases same : other = thread
  · subst same
    rw [Function.update_self]
    exact crossing_handler monitor
  · rw [Function.update_of_ne same]
    exact crossing other

theorem storable_without {world : World} (storable : world.Storable) (surplus : Option Session) :
    (worldWithout world surplus).Storable := by
  cases surplus with
  | none => exact storable
  | some session => exact storable

theorem Sound.keepSession (sound : held.Sound) (into : Handle) {got : Option Session}
    (good : ∀ session, got = some session → session.Sound) : (held.keepSession into got).Sound :=
  { sound with
    world := storable_without sound.world _
    sessions := sound.sessions.update into good }

theorem Sound.keepFile (sound : held.Sound) (into : Handle) {got : Option File}
    (good : ∀ file, got = some file → file.Sound) : (held.keepFile into got).Sound :=
  { sound with files := sound.files.update into good }

theorem Changes.sound {thread : Nat} {call : Call} {answer : Answer}
    (changes : Changes thread held call answer after) (sound : held.Sound) : after.Sound := by
  cases changes with
  | connects asks engine observer bound =>
    have served : held.serve.Sound := { sound with world := sound.world }
    refine served.keepSession _ fun session same => ?_
    cases same
    obtain ⟨id, -, bound⟩ := bound
    refine ⟨?_, Option.isSome_of_eq_some bound⟩
    rw [observer]
    exact sound.sessionObserver thread
  | connectsNot asks => exact sound.keepSession _ fun _ => nofun
  | disconnects asks found => exact sound.keepSession _ fun _ => nofun
  | opens asks position observer content =>
    obtain ⟨id, path, there⟩ := content
    refine sound.keepFile _ fun file same => ?_
    cases same
    refine ⟨?_, ?_, sound.world id path _ there⟩
    · rw [observer]
      exact sound.fileObserver thread
    · rw [position]
      exact Nat.zero_le _
  | opensNot asks => exact sound.keepFile _ fun _ => nofun
  | uses asks found moves =>
    refine sound.keepFile _ fun file same => ?_
    cases same
    exact (sound.files.find found).moves moves
  | closes asks => exact sound.keepFile _ fun _ => nofun
  | awaitsSessions asks =>
    exact { sound with sessionObserver := crossing_update sound.sessionObserver thread _ }
  | awaitsFiles asks => exact { sound with fileObserver := crossing_update sound.fileObserver thread _ }
  | nothing idle => exact sound

end Holdings

namespace Client

variable {tree : Config.FileTree} {environment : Config.Variables} {replies : Replies}

section
variable [Formats]

/-- What every allowed step keeps, every run of such steps keeps. -/
theorem acts_induction_of {allowed : Act → Prop} (kept : Client engine → Prop)
    (step : ∀ client act, allowed act → kept client → kept (client.act act).2) (client : Client engine)
    (history : List Act) (all : ∀ act ∈ history, allowed act) (before : kept client) :
    kept (client.acts history).2 := by
  induction history generalizing client with
  | nil => exact before
  | cons act rest ih =>
    obtain ⟨first, later⟩ := List.forall_mem_cons.mp all
    exact ih (client.act act).2 later (step client act first before)

/-- What every step keeps, every run keeps. -/
theorem acts_induction {kept : Client engine → Prop}
    (step : ∀ client act, kept client → kept (client.act act).2) (client : Client engine)
    (history : List Act) (before : kept client) : kept (client.acts history).2 :=
  acts_induction_of kept (fun client act (_ : True) => step client act) client history (fun _ _ => trivial) before

/-- What runs only ever put anew is what they put last. -/
theorem acts_last {β : Type} (view : Client engine → β) (puts : Act → Option β) {good : Client engine → Prop}
    (keeps : ∀ client act, good client → good (client.act act).2)
    (step : ∀ client act, good client → view (client.act act).2 = (puts act).getD (view client))
    (client : Client engine) (fine : good client) (history : List Act) :
    view (client.acts history).2 = (history.filterMap puts).getLast?.getD (view client) := by
  induction history generalizing client with
  | nil => rfl
  | cons act rest ih =>
    have later := ih (client.act act).2 (keeps client act fine)
    rw [step client act fine] at later
    refine later.trans ?_
    cases put : puts act with
    | none =>
      rw [List.filterMap_cons_none put]
      rfl
    | some value =>
      rw [List.filterMap_cons_some put, List.getLast?_cons]
      rfl

theorem act_edits (client : Client engine) (act : Act) : (∃ thread call, act = .call thread call) ∨
    (∀ thread call, act ≠ .call thread call) ∧
      (client.act act).2.holdings = { client.holdings with world := act.edit client.holdings.world } := by
  cases act with
  | call thread call => exact .inl ⟨thread, call, rfl⟩
  | _ => exact .inr ⟨fun _ _ => nofun, rfl⟩

theorem act_sound (client : Client engine) (act : Act) (sound : client.holdings.Sound) :
    (client.act act).2.holdings.Sound := by
  obtain ⟨thread, call, rfl⟩ | ⟨-, edited⟩ := act_edits client act
  · exact (call_changes client thread call).sound sound
  · rw [edited]
    exact { sound with world := sound.world.edit act }

end

theorem start_sound (tree : Config.FileTree) (environment : Config.Variables) (replies : Replies) :
    (start tree environment replies).holdings.Sound :=
  ⟨fun _ _ _ => nofun, fun _ _ => nofun, fun _ _ => nofun, fun _ _ => nofun, fun _ _ => nofun⟩

theorem reached_sound [Formats] (tree : Config.FileTree) (environment : Config.Variables) (replies : Replies)
    (history : List Act) : ((start tree environment replies).acts history).2.holdings.Sound :=
  acts_induction act_sound _ history (start_sound tree environment replies)

end Client
end DfsClient
