import DfsClient.Boundary.Caller
import DfsClient.Boundary.Endpoint
import DfsClient.Config.Resources

/-! Builders: a configuration with overrides for host, port and user. Overrides
are only resolved when a connect asks for the endpoint. -/

namespace DfsClient.Boundary

structure Builder where
  snapshot : Snapshot := {}
  host : Option String := none
  port : Option UInt16 := none
  user : Option String := none
deriving DecidableEq, Repr

namespace Builder

def set? (builder : Builder) (key value : String) : Option Builder :=
  (builder.snapshot.overlay? key value).map fun snapshot => { builder with snapshot }

def withHost (builder : Builder) (host : Option String) : Builder := { builder with host }

def withPort (builder : Builder) (port : UInt16) : Builder :=
  { builder with port := portOverride port }

/-- An absent or empty user leaves the one that was set before. -/
def withUser (builder : Builder) : Option String → Builder
  | some user => if user = "" then builder else { builder with user := some user }
  | none => builder

def endpoint (builder : Builder) : Endpoint := .resolve builder.host builder.port

def options [Formats] (builder : Builder) : Options := .ofSnapshot builder.snapshot

def text? (builder : Builder) (key : String) : Option String :=
  (builder.snapshot.get? key).map Text.cutAtNul

def integer (builder : Builder) (key : String) : Except Fault Int32 :=
  match builder.snapshot.getInteger? key with
  | none => .error .missingValue
  | some n =>
    match Text.int32? n.toInt with
    | some n => .ok n
    | none => .error (.outOfRange key)

def load [Formats] {World : Type} (tree : Config.FileTree) (path : Config.SearchPath) (scene : Scene World) :
    Reply Builder × Scene World :=
  let (loaded, notes) := Config.loadDefaults tree path
  (loaded.map fun snapshot => { snapshot := snapshot.getD {} }, scene.traceAll notes)

end Builder
end DfsClient.Boundary
