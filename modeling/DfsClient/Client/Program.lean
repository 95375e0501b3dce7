import DfsClient.Client.Call
import DfsClient.Engine.Memory.Session

/-! Programs that use the memory engine: calls on threads, and what the program does
to engines, clusters and its surroundings between two calls. -/

namespace DfsClient

/-- The bytes of a file, of which a machine holds fewer than this many. -/
abbrev Content := { bytes : List UInt8 // bytes.length < 9223372036854775808 }

/-- A step of a program. Engines and clusters are known by number once they are made. -/
inductive Act where
  | call (thread : Nat) (call : Call)
  | installNew
  | install (engine : Memory.EngineId)
  | addCluster (engine : Memory.EngineId) (host : String) (port : UInt16) (name : String)
  | removeCluster (engine : Memory.EngineId) (host : String) (port : UInt16)
  | putFile (cluster : Memory.ClusterId) (path : String) (content : Content)
  | removeFile (cluster : Memory.ClusterId) (path : String)
  | denyUser (cluster : Memory.ClusterId) (user : String)
  | surround (tree : Config.FileTree) (environment : Config.Variables)

namespace Act

open Memory

/-- What a step that is no call does to engines and clusters. One that was not made yet
cannot be named. -/
def edit (world : World) : Act → World
  | .installNew => world.installNew
  | .install engine => if engine < world.engineCount then world.install engine else world
  | .addCluster engine host port name =>
    if engine < world.engineCount then (world.addCluster engine host port name).2 else world
  | .removeCluster engine host port =>
    if engine < world.engineCount then (world.removeCluster engine host port).2 else world
  | .putFile cluster path content =>
    world.setCluster cluster ((world.clusters cluster).putFile path content.val)
  | .removeFile cluster path => world.setCluster cluster ((world.clusters cluster).removeFile path)
  | .denyUser cluster user => world.setCluster cluster ((world.clusters cluster).denyUser user)
  | .call .. | .surround .. => world

end Act

namespace Client

def start (tree : Config.FileTree) (environment : Config.Variables) (replies : Replies) :
    Client Memory.engine where
  scene := ⟨{ replies }, {}⟩
  tree
  environment

variable [Formats]

def act (client : Client Memory.engine) (act : Act) : Answer × Client Memory.engine :=
  match act with
  | .call thread call => client.call thread call
  | .surround tree environment => (.nothing, { client with tree, environment })
  | _ => (.nothing, { client with scene := { client.scene with world := act.edit client.scene.world } })

def acts (client : Client Memory.engine) : List Act → List Answer × Client Memory.engine
  | [] => ([], client)
  | next :: rest =>
    let (answer, client) := client.act next
    let (answers, client) := client.acts rest
    (answer :: answers, client)

end Client
end DfsClient
