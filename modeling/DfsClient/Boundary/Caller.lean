import DfsClient.Boundary.Fault
import DfsClient.Engine.Basic

/-! A calling thread: its own slots, and the scene that it shares with the
others. The slots hold the last error, which stays until the next one, and the
observers for whatever the thread creates next. -/

namespace DfsClient.Boundary

structure Slots where
  errno : Int32 := 0
  message : String := ""
  sessionObserver : Option Observer := none
  fileObserver : Option Observer := none
deriving DecidableEq, Repr

structure Caller (World : Type) where
  slots : Slots
  scene : Scene World

/-- Why a call fails: its arguments are refused, the engine fails in good order,
or a panic ends it. -/
inductive Failure where
  | refused (fault : Fault)
  | failed (status : Status)
  | panicked (payload : Payload)
deriving DecidableEq, Repr

namespace Caller

variable {World : Type}

def trace (caller : Caller World) (trace : Trace) : Caller World :=
  { caller with scene := caller.scene.trace trace }

def report (caller : Caller World) (errno : Int32) (message : String) : Caller World :=
  let note : Trace :=
    ⟨.debug, "reporting error", [("errno", toString errno.toInt), ("message", message)]⟩
  let caller := caller.trace note
  { caller with slots := { caller.slots with errno, message } }

/-- A status that is ok reports nothing, whoever takes it for a failure. -/
def reportStatus (caller : Caller World) (status : Status) : Caller World :=
  if status.isOk then caller else caller.report status.code.errno status.report

/-- Reports a failure of any kind. A panic counts as an exception. -/
def record (caller : Caller World) : Failure → Caller World
  | .refused fault => caller.report fault.errno fault.message
  | .failed status => caller.reportStatus status
  | .panicked payload => caller.reportStatus (.exception payload.description)

def accept {α : Type} (caller : Caller World) : Except Fault α → Option α × Caller World
  | .ok value => (some value, caller)
  | .error fault => (none, caller.record (.refused fault))

def settle {α : Type} (caller : Caller World) : Result α → Option α × Caller World
  | .answered (.ok answer) => (some answer, caller)
  | .answered (.error status) => (none, caller.record (.failed status))
  | .panicked payload => (none, caller.record (.panicked payload))

/-- The same for what cannot fail but may panic. -/
def finish {α : Type} (caller : Caller World) : Reply α → Option α × Caller World
  | .answered answer => (some answer, caller)
  | .panicked payload => (none, caller.record (.panicked payload))

end Caller
end DfsClient.Boundary
