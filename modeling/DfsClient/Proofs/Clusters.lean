import DfsClient.Proofs.Reachable

/-! What clusters come to hold. A cluster that was made keeps its number. At each path it holds
what was put there last, unless that was removed, and no other step changes it. -/

namespace DfsClient
open Memory

/-- What a step leaves at a path of a cluster, if the step puts or removes a file there. -/
def Act.stores? (id : ClusterId) (path : String) : Act → Option (Option (List UInt8))
  | .putFile cluster other content => if cluster = id ∧ other = path then some (some content.val) else none
  | .removeFile cluster other => if cluster = id ∧ other = path then some none else none
  | _ => none

namespace Memory

def World.fileAt? (world : World) (id : ClusterId) (path : String) : Option (List UInt8) :=
  (world.clusters id).files.get? path

/-- Every endpoint of every engine leads to a cluster that was made. -/
def World.Charted (world : World) : Prop :=
  ∀ engine, (world.engines engine).endpoints.Each fun id => id < world.clusterCount

namespace World

variable {world : World}

theorem fileAt?_setCluster_same {id : ClusterId} {cluster : Cluster} {path : String} :
    (world.setCluster id cluster).fileAt? id path = cluster.files.get? path := by
  unfold fileAt?
  rw [clusters_setCluster_same]

theorem fileAt?_setCluster_other {id other : ClusterId} {cluster : Cluster} {path : String} (differ : other ≠ id) :
    (world.setCluster id cluster).fileAt? other path = world.fileAt? other path := by
  unfold fileAt?
  rw [clusters_setCluster_other _ _ differ]

theorem fileAt?_edit {id : ClusterId} (made : id < world.clusterCount) (path : String) (act : Act) :
    (act.edit world).fileAt? id path = (act.stores? id path).getD (world.fileAt? id path) := by
  cases act with
  | putFile cluster other content =>
    by_cases same : cluster = id
    · subst same
      refine fileAt?_setCluster_same.trans ?_
      by_cases here : other = path
      · subst here
        simp only [Act.stores?, and_self, ↓reduceIte]
        exact Table.get?_set_same ..
      · simp only [Act.stores?, here, and_false, ↓reduceIte]
        exact Table.get?_set_other _ _ (Ne.symm here)
    · simp only [Act.stores?, same, false_and, ↓reduceIte]
      exact fileAt?_setCluster_other (Ne.symm same)
  | removeFile cluster other =>
    by_cases same : cluster = id
    · subst same
      refine fileAt?_setCluster_same.trans ?_
      by_cases here : other = path
      · subst here
        simp only [Act.stores?, and_self, ↓reduceIte]
        exact Table.get?_erase_same ..
      · simp only [Act.stores?, here, and_false, ↓reduceIte]
        exact Table.get?_erase_other _ (Ne.symm here)
    · simp only [Act.stores?, same, false_and, ↓reduceIte]
      exact fileAt?_setCluster_other (Ne.symm same)
  | denyUser cluster user =>
    by_cases same : cluster = id
    · subst same
      exact fileAt?_setCluster_same
    · exact fileAt?_setCluster_other (Ne.symm same)
  | addCluster engine host port name =>
    simp only [Act.edit]
    split
    -- A new cluster gets a number that none had before.
    · exact fileAt?_setCluster_other (Nat.ne_of_lt made)
    · rfl
  | install engine | removeCluster engine host port =>
    simp only [Act.edit]
    split
    · rfl
    · rfl
  | call | installNew | surround => rfl

/-- What a change of one cluster leaves alone in that one, it leaves alone in all. -/
theorem view_setCluster {β : Type} (view : Cluster → β) {other : ClusterId} {cluster : Cluster}
    (same : view cluster = view (world.clusters other)) (id : ClusterId) :
    view ((world.setCluster other cluster).clusters id) = view (world.clusters id) :=
  forall_setCluster (P := fun id cluster => view cluster = view (world.clusters id)) same (fun _ => rfl) id

/-- A cluster keeps the name that it was made with. -/
theorem name_edit {id : ClusterId} (made : id < world.clusterCount) (act : Act) :
    ((act.edit world).clusters id).name = (world.clusters id).name := by
  cases act with
  | putFile | removeFile | denyUser =>
    apply view_setCluster Cluster.name
    rfl
  | addCluster engine host port name =>
    simp only [Act.edit]
    split
    · exact congrArg Cluster.name (clusters_setCluster_other _ _ (Nat.ne_of_lt made))
    · rfl
  | install | removeCluster =>
    simp only [Act.edit]
    split
    · rfl
    · rfl
  | call | installNew | surround => rfl

theorem clusterCount_edit (act : Act) : world.clusterCount ≤ (act.edit world).clusterCount := by
  cases act with
  | addCluster engine host port name =>
    simp only [Act.edit]
    split
    · exact Nat.le_succ _
    · exact Nat.le_refl _
  | install engine | removeCluster engine host port =>
    simp only [Act.edit]
    split
    · exact Nat.le_refl _
    · exact Nat.le_refl _
  | _ => exact Nat.le_refl _

theorem Charted.made (charted : world.Charted) {engine : EngineId} {id : ClusterId}
    (registered : world.Registered engine id) : id < world.clusterCount := by
  obtain ⟨host, port, found⟩ := registered
  exact charted engine _ id found

theorem Charted.setEngine (charted : world.Charted) (id : EngineId) {engine : Instance}
    (good : engine.endpoints.Each fun id => id < world.clusterCount) : (world.setEngine id engine).Charted :=
  forall_setEngine (P := fun _ engine => engine.endpoints.Each fun id => id < world.clusterCount) good charted

theorem Charted.without (charted : world.Charted) (surplus : Option Session) :
    (Holdings.worldWithout world surplus).Charted := by
  cases surplus with
  | none => exact charted
  | some session => exact charted.setEngine session.engine (charted session.engine)

theorem Charted.edit (charted : world.Charted) (act : Act) : (act.edit world).Charted := by
  cases act with
  | installNew => exact charted.setEngine world.engineCount fun _ _ => nofun
  | install engine =>
    simp only [Act.edit]
    split
    · exact charted
    · exact charted
  | addCluster engine host port name =>
    simp only [Act.edit]
    split
    · have grown : World.Charted { world with clusterCount := world.clusterCount + 1 } :=
        fun other endpoint id found => Nat.lt_succ_of_lt (charted other endpoint id found)
      exact grown.setEngine engine ((grown engine).set _ (Nat.lt_succ_self _))
    · exact charted
  | removeCluster engine host port =>
    simp only [Act.edit]
    split
    · exact charted.setEngine engine ((charted engine).erase _)
    · exact charted
  | _ => exact charted

end World
end Memory

namespace Holdings

variable {held after : Holdings} {thread : Nat} {call : Call} {answer : Answer}

theorem clusters_worldWithout (world : World) (surplus : Option Session) :
    (worldWithout world surplus).clusters = world.clusters ∧
      (worldWithout world surplus).clusterCount = world.clusterCount := by
  cases surplus with
  | none => exact ⟨rfl, rfl⟩
  | some session => exact ⟨rfl, rfl⟩

theorem Changes.clusters_eq (changes : Changes thread held call answer after) :
    after.world.clusters = held.world.clusters ∧ after.world.clusterCount = held.world.clusterCount := by
  cases changes with
  | connects | connectsNot | disconnects => exact clusters_worldWithout ..
  | _ => exact ⟨rfl, rfl⟩

theorem Changes.charted (changes : Changes thread held call answer after) (charted : held.world.Charted) :
    after.world.Charted := by
  cases changes with
  | connects asks engine observer bound =>
    have served : held.serve.world.Charted :=
      charted.setEngine held.world.installed (charted held.world.installed)
    exact served.without _
  | connectsNot | disconnects => exact charted.without _
  | _ => exact charted

end Holdings

namespace Client

theorem act_charted [Formats] (client : Client engine) (act : Act) (charted : client.holdings.world.Charted) :
    (client.act act).2.holdings.world.Charted := by
  obtain ⟨thread, call, rfl⟩ | ⟨-, edited⟩ := act_edits client act
  · exact (call_changes client thread call).charted charted
  · rw [edited]
    exact charted.edit act

theorem reached_charted [Formats] (tree : Config.FileTree) (environment : Config.Variables) (replies : Replies)
    (history : List Act) : ((start tree environment replies).acts history).2.holdings.world.Charted :=
  acts_induction act_charted _ history fun _ _ _ => nofun

variable {id : ClusterId} [Formats]

theorem act_made (client : Client engine) (act : Act) (made : id < client.holdings.world.clusterCount) :
    id < (client.act act).2.holdings.world.clusterCount := by
  obtain ⟨thread, call, rfl⟩ | ⟨-, edited⟩ := act_edits client act
  · exact Nat.lt_of_lt_of_eq made (call_changes client thread call).clusters_eq.2.symm
  · rw [edited]
    exact Nat.lt_of_lt_of_le made (World.clusterCount_edit act)

theorem act_clusterName (client : Client engine) (act : Act) (made : id < client.holdings.world.clusterCount) :
    ((client.act act).2.holdings.world.clusters id).name = (client.holdings.world.clusters id).name := by
  obtain ⟨thread, call, rfl⟩ | ⟨-, edited⟩ := act_edits client act
  · exact congrArg (fun clusters => (clusters id).name) (call_changes client thread call).clusters_eq.1
  · rw [edited]
    exact World.name_edit made act

theorem acts_clusterName (client : Client engine) (made : id < client.holdings.world.clusterCount)
    (history : List Act) :
    ((client.acts history).2.holdings.world.clusters id).name = (client.holdings.world.clusters id).name := by
  induction history generalizing client with
  | nil => rfl
  | cons act rest ih =>
    exact (ih (client.act act).2 (act_made client act made)).trans (act_clusterName client act made)

theorem act_fileAt? (client : Client engine) (act : Act) (path : String)
    (made : id < client.holdings.world.clusterCount) :
    (client.act act).2.holdings.world.fileAt? id path =
      (act.stores? id path).getD (client.holdings.world.fileAt? id path) := by
  obtain ⟨thread, call, rfl⟩ | ⟨-, edited⟩ := act_edits client act
  · exact congrArg (fun clusters => (clusters id).files.get? path)
      (call_changes client thread call).clusters_eq.1
  · rw [edited]
    exact World.fileAt?_edit made path act

/-- A cluster holds at a path what a run put there last, or what it held there before. -/
theorem acts_fileAt? (client : Client engine) (made : id < client.holdings.world.clusterCount)
    (path : String) (history : List Act) :
    (client.acts history).2.holdings.world.fileAt? id path =
      (history.filterMap (Act.stores? id path)).getLast?.getD (client.holdings.world.fileAt? id path) :=
  acts_last (fun client => client.holdings.world.fileAt? id path) (Act.stores? id path) act_made
    (fun client act made => act_fileAt? client act path made) client made history

end Client
end DfsClient
