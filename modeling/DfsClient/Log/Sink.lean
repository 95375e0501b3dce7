import DfsClient.Log.Record

/-! Where records go. A sink is the trace stream, an embedder's logger, a handler
across the boundary, or nothing. -/

namespace DfsClient.Log

/-- A handler is known by its label. One that fires once takes itself down
after its first record. -/
structure Handler where
  label : String
  once : Bool := false
deriving DecidableEq, Repr

inductive Sink where
  | trace
  | logger (label : String)
  | handler (receiver : Handler)
  | discard
deriving DecidableEq, Repr

/-- The sink that a caller's handler stands for; without one, records are dropped. -/
def Sink.ofHandler? : Option Handler → Sink
  | some receiver => .handler receiver
  | none => .discard

end DfsClient.Log
