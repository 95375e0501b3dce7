import DfsClient.Config.Options
import DfsClient.Reply
import DfsClient.Status

/-! What engines are asked and what they answer. -/

namespace DfsClient

/-- A call that may also fail in good order. -/
abbrev Result (α : Type) := Reply (Except Status α)

def Result.ok (answer : α) : Result α := .answered (.ok answer)
def Result.failed (status : Status) : Result α := .answered (.error status)

inductive SeekTarget where
  | start (offset : Nat)
  | current (delta : Int)
  | fromEnd (delta : Int)
deriving DecidableEq, Repr

/-- The answer to a read: the count of bytes, and the bytes that were stored at
the start of the caller's buffer. -/
structure Transfer where
  count : Nat
  stored : List UInt8
deriving DecidableEq, Repr

inductive Method where
  | newService
  | newSession
  | observeSession
  | connect
  | connectDefault
  | openFile
  | observeFile
  | read
  | readAt
  | seek
  | cancel
  | dropSession
  | dropFile
  | dropService
deriving DecidableEq, Repr

inductive Request where
  | newService
  | newSession (user : String) (options : Options)
  | observeSession
  | connect (host service : String)
  | connectDefault
  | openFile (path : String)
  | observeFile
  | read (length : Nat)
  | readAt (length offset : Nat)
  | seek (target : SeekTarget)
  | cancel
  | dropSession
  | dropFile
  | dropService
deriving DecidableEq, Repr

def Request.method : Request → Method
  | .newService => .newService
  | .newSession .. => .newSession
  | .observeSession => .observeSession
  | .connect .. => .connect
  | .connectDefault => .connectDefault
  | .openFile _ => .openFile
  | .observeFile => .observeFile
  | .read _ => .read
  | .readAt .. => .readAt
  | .seek _ => .seek
  | .cancel => .cancel
  | .dropSession => .dropSession
  | .dropFile => .dropFile
  | .dropService => .dropService

end DfsClient
