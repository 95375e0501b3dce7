/-! The status in which every operation of an engine ends. -/

namespace DfsClient

inductive StatusCode where
  | ok
  | invalidArgument
  | resourceUnavailable
  | unimplemented
  | exception
  | operationCanceled
  | permissionDenied
  | pathNotFound
  | error
deriving DecidableEq, Repr

structure Status where
  code : StatusCode
  message : String
deriving DecidableEq, Repr

namespace Status

def isOk (status : Status) : Bool := status.code == .ok

def invalidArgument (message : String) : Status := ⟨.invalidArgument, message⟩
def resourceUnavailable (message : String) : Status := ⟨.resourceUnavailable, message⟩
def permissionDenied (message : String) : Status := ⟨.permissionDenied, message⟩
def pathNotFound (message : String) : Status := ⟨.pathNotFound, message⟩
def canceled : Status := ⟨.operationCanceled, ""⟩
def exception (description : String) : Status := ⟨.exception, description⟩
def error (message : String) : Status := ⟨.error, message⟩

end Status

namespace Errno

/-- Error numbers are those of the platform that callers see. -/
def interrupted : Int32 := 4
def badFile : Int32 := 9
def tryAgain : Int32 := 11
def accessDenied : Int32 := 13
def noDevice : Int32 := 19
def invalidArgument : Int32 := 22
def notImplemented : Int32 := 38

end Errno

namespace StatusCode

def errno : StatusCode → Int32
  | .ok => 0
  | .invalidArgument => Errno.invalidArgument
  | .resourceUnavailable => Errno.tryAgain
  | .unimplemented => Errno.notImplemented
  | .exception | .operationCanceled => Errno.interrupted
  | .permissionDenied => Errno.accessDenied
  | .pathNotFound | .error => Errno.notImplemented

/-- What is reported for a failure that brings no message of its own. -/
def phrase : StatusCode → String
  | .ok => ""
  | .invalidArgument => "Invalid argument"
  | .resourceUnavailable => "Resource temporarily unavailable"
  | .unimplemented => "Function not implemented"
  | .exception => "Exception raised"
  | .operationCanceled => "Operation canceled"
  | .permissionDenied => "Permission denied"
  | .pathNotFound | .error => "Error: unrecognised code"

end StatusCode

/-- The message to report: the status's own, or its code's phrase if that is empty. -/
def Status.report (status : Status) : String :=
  if status.message = "" then status.code.phrase else status.message

end DfsClient
