import DfsClient.Table

/-! The world of the memory engine: clusters of files, and engines that know
clusters by endpoint and count the services they have running. Clusters and
engines are known by number and never go away; removing an endpoint only makes a
cluster unreachable for later connects. -/

namespace DfsClient.Memory

structure Cluster where
  name : String
  files : Table (List UInt8) := {}
  denied : List String := []

namespace Cluster

def putFile (cluster : Cluster) (path : String) (bytes : List UInt8) : Cluster :=
  { cluster with files := cluster.files.set path bytes }

def removeFile (cluster : Cluster) (path : String) : Cluster :=
  { cluster with files := cluster.files.erase path }

def denyUser (cluster : Cluster) (user : String) : Cluster :=
  { cluster with denied := user :: cluster.denied }

def denies (cluster : Cluster) (user : String) : Bool := cluster.denied.contains user

end Cluster

abbrev ClusterId := Nat
abbrev EngineId := Nat

/-- One engine: its endpoints and the number of its services in use. The number is
an integer, so that a release too many would show. -/
structure Instance where
  endpoints : Table ClusterId := {}
  services : Int := 0

def endpoint (host : String) (port : UInt16) : String := host ++ ":" ++ toString port.toNat

/-- Engines and clusters up to `engineCount` and `clusterCount` have been made.
New sessions belong to the installed engine. -/
structure World where
  engines : EngineId → Instance := fun _ => {}
  engineCount : Nat := 1
  installed : EngineId := 0
  clusters : ClusterId → Cluster := fun _ => { name := "" }
  clusterCount : Nat := 0

namespace World

def newest (world : World) : EngineId := world.engineCount - 1

def setEngine (world : World) (id : EngineId) (engine : Instance) : World :=
  { world with engines := fun other => if other = id then engine else world.engines other }

def setCluster (world : World) (id : ClusterId) (cluster : Cluster) : World :=
  { world with clusters := fun other => if other = id then cluster else world.clusters other }

def installNew (world : World) : World :=
  { world.setEngine world.engineCount {} with
    engineCount := world.engineCount + 1, installed := world.engineCount }

def install (world : World) (id : EngineId) : World := { world with installed := id }

def services (world : World) (id : EngineId) : Int := (world.engines id).services

def addService (world : World) (id : EngineId) : World :=
  world.setEngine id { world.engines id with services := world.services id + 1 }

def removeService (world : World) (id : EngineId) : World :=
  world.setEngine id { world.engines id with services := world.services id - 1 }

def reach? (world : World) (id : EngineId) (host : String) (port : UInt16) : Option ClusterId :=
  (world.engines id).endpoints.get? (endpoint host port)

/-- Makes a cluster and registers it, in place of any other at that endpoint. -/
def addCluster (world : World) (id : EngineId) (host : String) (port : UInt16) (name : String) :
    ClusterId × World :=
  let cluster := world.clusterCount
  let world := world.setCluster cluster { name }
  let engine := world.engines id
  (cluster, { world.setEngine id
      { engine with endpoints := engine.endpoints.set (endpoint host port) cluster } with
    clusterCount := cluster + 1 })

def removeCluster (world : World) (id : EngineId) (host : String) (port : UInt16) :
    Option ClusterId × World :=
  let engine := world.engines id
  (world.reach? id host port,
    world.setEngine id { engine with endpoints := engine.endpoints.erase (endpoint host port) })

theorem engines_setEngine_same (world : World) (id : EngineId) (engine : Instance) :
    (world.setEngine id engine).engines id = engine := by simp [setEngine]

theorem engines_setEngine_other (world : World) {id other : EngineId} (engine : Instance)
    (differ : other ≠ id) : (world.setEngine id engine).engines other = world.engines other := by
  simp [setEngine, differ]

/-- What holds of the engine that is set, and of all engines before, holds of all engines. -/
theorem forall_setEngine {world : World} {id : EngineId} {engine : Instance} {P : EngineId → Instance → Prop}
    (there : P id engine) (others : ∀ other, P other (world.engines other)) (other : EngineId) :
    P other ((world.setEngine id engine).engines other) := by
  by_cases same : other = id
  · subst same
    rw [engines_setEngine_same]
    exact there
  · rw [engines_setEngine_other _ _ same]
    exact others other

theorem clusters_setCluster_same (world : World) (id : ClusterId) (cluster : Cluster) :
    (world.setCluster id cluster).clusters id = cluster := by simp [setCluster]

theorem clusters_setCluster_other (world : World) {id other : ClusterId} (cluster : Cluster)
    (differ : other ≠ id) : (world.setCluster id cluster).clusters other = world.clusters other := by
  simp [setCluster, differ]

/-- What holds of the cluster that is set, and of all clusters before, holds of all clusters. -/
theorem forall_setCluster {world : World} {id : ClusterId} {cluster : Cluster} {P : ClusterId → Cluster → Prop}
    (there : P id cluster) (others : ∀ other, P other (world.clusters other)) (other : ClusterId) :
    P other ((world.setCluster id cluster).clusters other) := by
  by_cases same : other = id
  · subst same
    rw [clusters_setCluster_same]
    exact there
  · rw [clusters_setCluster_other _ _ same]
    exact others other

end World
end DfsClient.Memory
