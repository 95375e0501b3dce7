import DfsClient.Boundary.Caller
import DfsClient.Proofs.Ambient

/-! Recording a failure. A failure determines the error it leaves behind, as the tables here have it, and
recording it changes nothing else that a call can be asked about later. -/

namespace DfsClient

/-- An error number with its message. -/
abbrev Boundary.LastError := Int32 × String

/-- The error for a panic: that of an exception, with the text of its payload if it has any. -/
def Payload.error : Payload → Boundary.LastError
  | .text message => (4, if message = "" then "Exception raised" else message)
  | .other => (4, "Exception raised")

namespace Boundary

def Slots.lastError (slots : Slots) : LastError := (slots.errno, slots.message)

def Slots.withError (slots : Slots) (error : LastError) : Slots :=
  { slots with errno := error.1, message := error.2 }

def Fault.error : Fault → LastError
  | .nullSession => (19, "Cannot perform FS operations with null FS handle.")
  | .nullFile => (9, "Cannot perform FS operations with null File handle.")
  | .nullDisconnect => (19, "Cannot disconnect null FS handle.")
  | .noSession => (19, "Could not create FileSystem object")
  | .nullBuilder => (22, "Cannot perform operations with null Builder handle.")
  | .nullArgument name => (22, "Argument \x60" ++ name ++ "\x60 must not be null")
  | .invalidText name => (22, "Argument \x60" ++ name ++ "\x60 is not valid UTF-8")
  | .negative name => (22, "Argument \x60" ++ name ++ "\x60 must not be negative")
  | .refusedValue => (22, "Could not change Builder value")
  | .missingValue => (22, "Could not get Builder value")
  | .outOfRange key => (22, "Value of \x60" ++ key ++ "\x60 does not fit in an int")

theorem Fault.error_eq (fault : Fault) : (fault.errno, fault.message) = fault.error := by
  cases fault <;> rfl

end Boundary

/-- The error of each code where the engine has nothing to say about it. -/
def StatusCode.error? : StatusCode → Option Boundary.LastError
  | .ok => none
  | .invalidArgument => some (22, "Invalid argument")
  | .resourceUnavailable => some (11, "Resource temporarily unavailable")
  | .unimplemented => some (38, "Function not implemented")
  | .exception => some (4, "Exception raised")
  | .operationCanceled => some (4, "Operation canceled")
  | .permissionDenied => some (13, "Permission denied")
  | .pathNotFound | .error => some (38, "Error: unrecognised code")

/-- What the engine says goes before the phrase of the code. -/
def Status.error? (status : Status) : Option Boundary.LastError :=
  status.code.error?.map fun (number, phrase) => (number, if status.message = "" then phrase else status.message)

theorem Status.error?_eq (status : Status) :
    status.error? = if status.isOk then none else some (status.code.errno, status.report) := by
  obtain ⟨code, message⟩ := status
  cases code <;> rfl

namespace Boundary

/-- The error that a failure leaves behind. Only a status that is ok leaves none. -/
def Failure.error? : Failure → Option LastError
  | .refused fault => some fault.error
  | .failed status => status.error?
  | .panicked payload => some payload.error

theorem Failure.error?_failed {status : Status} (bad : status.isOk = false) :
    (Failure.failed status).error? = some (status.code.errno, status.report) := by
  rw [error?, status.error?_eq, bad]
  rfl

theorem Failure.error?_ok {status : Status} (ok : status.isOk = true) : (Failure.failed status).error? = none := by
  rw [error?, status.error?_eq, ok]
  rfl

namespace Caller

variable {World : Type}

def reportNote (error : LastError) : Trace :=
  ⟨.debug, "reporting error", [("errno", toString error.1.toInt), ("message", error.2)]⟩

def reportAll (caller : Caller World) : Option LastError → Caller World
  | some error => { slots := caller.slots.withError error, scene := caller.scene.trace (reportNote error) }
  | none => caller

theorem reportStatus_eq (caller : Caller World) (status : Status) :
    caller.reportStatus status = caller.reportAll (Failure.failed status).error? := by
  unfold reportStatus
  cases ok : status.isOk with
  | true =>
    rw [Failure.error?_ok ok]
    rfl
  | false =>
    rw [Failure.error?_failed ok]
    rfl

theorem record_eq (caller : Caller World) (failure : Failure) :
    caller.record failure = caller.reportAll failure.error? := by
  cases failure with
  | refused fault => exact congrArg (caller.reportAll ∘ some) fault.error_eq
  | failed status => exact reportStatus_eq caller status
  | panicked payload =>
    refine (reportStatus_eq caller _).trans (congrArg caller.reportAll ?_)
    cases payload with
    | text message => rfl
    | other => rfl

theorem world_record (caller : Caller World) (failure : Failure) :
    (caller.record failure).scene.world = caller.scene.world := by
  rw [record_eq]
  cases failure.error? <;> rfl

theorem lastError_record (caller : Caller World) (failure : Failure) :
    (caller.record failure).slots.lastError = failure.error?.getD caller.slots.lastError := by
  rw [record_eq]
  cases failure.error? <;> rfl

theorem record_keeps (caller : Caller World) (failure : Failure) :
    (caller.record failure).scene.ambient.replies = caller.scene.ambient.replies ∧
      (caller.record failure).scene.ambient.told = caller.scene.ambient.told := by
  rw [record_eq]
  cases failure.error? <;> exact ⟨rfl, rfl⟩

end Caller
end Boundary
end DfsClient
