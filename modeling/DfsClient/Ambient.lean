import DfsClient.Engine.Contract
import DfsClient.Event
import DfsClient.Log.Filter
import DfsClient.Log.Sink
import DfsClient.Trace

/-! What surrounds every operation: the log filter and sink, the replies of
handlers, and the list of what was observed so far. Engines act on it only by
logging and by telling observers. -/

namespace DfsClient

inductive Observation where
  | notified (observer : Observer) (event : Event)
  | logged (label : String) (record : Log.Record)
  | delivered (label : String) (record : Log.Delivered)
  | traced (trace : Trace)
  | requested (request : Request)
deriving DecidableEq, Repr

/-- How the handlers across the boundary reply: by the number of events they
were told before, the monitor and the event. -/
abbrev Replies := Nat → Monitor → Event → Int32

structure Ambient where
  filter : Log.Filter := {}
  sink : Log.Sink := .trace
  replies : Replies := fun _ _ _ => 0
  told : Nat := 0
  seen : List Observation := []

namespace Ambient

def emit (ambient : Ambient) (observation : Observation) : Ambient :=
  { ambient with seen := ambient.seen ++ [observation] }

def trace (ambient : Ambient) (trace : Trace) : Ambient := ambient.emit (.traced trace)

/-- Hands a record to the sink, whatever the filter says. -/
def write (ambient : Ambient) (record : Log.Record) : Ambient :=
  match ambient.sink with
  | .trace => ambient.trace (.ofRecord record)
  | .logger label => ambient.emit (.logged label record)
  | .handler receiver =>
    let ambient := ambient.emit (.delivered receiver.label record.deliver)
    if receiver.once then { ambient with sink := .discard } else ambient
  | .discard => ambient

def log (ambient : Ambient) (level : Log.Level) (component : Log.Component) (message : String) :
    Ambient :=
  if ambient.filter.admits level component then ambient.write { level, component, message }
  else ambient

def tell (ambient : Ambient) (observer : Observer) (event : Event) : Response × Ambient :=
  match observer with
  | .handler monitor =>
    let event := event.deliver
    (.ofReply (ambient.replies ambient.told monitor event),
      { ambient with told := ambient.told + 1 }.emit (.notified observer event))
  | .embedded _ response => (response, ambient.emit (.notified observer event))

def tell? (ambient : Ambient) (observer : Option Observer) (event : Event) : Response × Ambient :=
  match observer with
  | some observer => ambient.tell observer event
  | none => (.proceed, ambient)

end Ambient

/-- The surroundings together with an engine's own world. -/
structure Scene (World : Type) where
  ambient : Ambient
  world : World

namespace Scene

variable {World : Type}

def log (scene : Scene World) (level : Log.Level) (component : Log.Component) (message : String) :
    Scene World :=
  { scene with ambient := scene.ambient.log level component message }

def trace (scene : Scene World) (trace : Trace) : Scene World :=
  { scene with ambient := scene.ambient.trace trace }

def traceAll (scene : Scene World) (traces : List Trace) : Scene World := traces.foldl trace scene

def emit (scene : Scene World) (observation : Observation) : Scene World :=
  { scene with ambient := scene.ambient.emit observation }

/-- The options of a snapshot, with a note if its default file system is malformed. -/
def optionsOf [Formats] (scene : Scene World) (snapshot : Snapshot) : Options × Scene World :=
  let notes := match Options.defaultFsProblem? snapshot with
    | some (text, message) =>
      [⟨.warn, "ignoring malformed fs.defaultFS", [("value", text), ("error", message)]⟩]
    | none => []
  (.ofSnapshot snapshot, scene.traceAll notes)

def tell? (scene : Scene World) (observer : Option Observer) (event : Event) :
    Response × Scene World :=
  let (response, ambient) := scene.ambient.tell? observer event
  (response, { scene with ambient })

end Scene
end DfsClient
