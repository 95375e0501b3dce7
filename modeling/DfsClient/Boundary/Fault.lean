import DfsClient.Status

/-! What the boundary refuses by itself, before any engine is asked. -/

namespace DfsClient.Boundary

inductive Fault where
  | nullSession
  | nullFile
  | nullDisconnect
  | noSession
  | nullBuilder
  | nullArgument (name : String)
  | invalidText (name : String)
  | negative (name : String)
  | refusedValue
  | missingValue
  | outOfRange (key : String)
deriving DecidableEq, Repr

namespace Fault

def errno : Fault → Int32
  | .nullSession | .nullDisconnect | .noSession => Errno.noDevice
  | .nullFile => Errno.badFile
  | _ => Errno.invalidArgument

def message : Fault → String
  | .nullSession => "Cannot perform FS operations with null FS handle."
  | .nullFile => "Cannot perform FS operations with null File handle."
  | .nullDisconnect => "Cannot disconnect null FS handle."
  | .noSession => "Could not create FileSystem object"
  | .nullBuilder => "Cannot perform operations with null Builder handle."
  | .nullArgument name => "Argument \x60" ++ name ++ "\x60 must not be null"
  | .invalidText name => "Argument \x60" ++ name ++ "\x60 is not valid UTF-8"
  | .negative name => "Argument \x60" ++ name ++ "\x60 must not be negative"
  | .refusedValue => "Could not change Builder value"
  | .missingValue => "Could not get Builder value"
  | .outOfRange key => "Value of \x60" ++ key ++ "\x60 does not fit in an int"

/-- What a refused call answers, where it answers a number. A value that cannot
be set or does not fit has an answer of its own. -/
def code : Fault → Int32
  | .refusedValue | .outOfRange _ => 1
  | _ => -1

end Fault
end DfsClient.Boundary
