import DfsClient.Log.Level

/-! The process-wide filter: a threshold level and a mask of enabled
components. Requests that name no level or no single component change nothing. -/

namespace DfsClient.Log

structure Filter where
  level : Level := .info
  mask : UInt32 := 31
deriving DecidableEq, Repr

namespace Filter

def isEnabled (filter : Filter) (component : Component) : Bool :=
  filter.mask &&& component.bit != 0

def admits (filter : Filter) (level : Level) (component : Component) : Bool :=
  level.reaches filter.level && filter.isEnabled component

def enable (filter : Filter) (component : Component) : Filter :=
  { filter with mask := filter.mask ||| component.bit }

def disable (filter : Filter) (component : Component) : Filter :=
  { filter with mask := filter.mask &&& ~~~component.bit }

def enabled (filter : Filter) : List Component := Component.all.filter filter.isEnabled

inductive Request where
  | level (n : Int32)
  | enable (n : Int32)
  | disable (n : Int32)
deriving DecidableEq, Repr

/-- Answers 0 for an accepted request and 1 for a refused one. -/
def request (filter : Filter) : Request → Int32 × Filter
  | .level n =>
    match Level.ofCode? n with
    | some level => (0, { filter with level })
    | none => (1, filter)
  | .enable n =>
    match Component.ofCode? n with
    | some component => (0, filter.enable component)
    | none => (1, filter)
  | .disable n =>
    match Component.ofCode? n with
    | some component => (0, filter.disable component)
    | none => (1, filter)

end Filter
end DfsClient.Log
