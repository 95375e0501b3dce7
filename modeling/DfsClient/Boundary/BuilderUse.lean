import DfsClient.Boundary.Argument
import DfsClient.Boundary.Builder

/-! What callers do with builders. Changes and lookups are functions of the
builder and the arguments alone. -/

namespace DfsClient.Boundary

inductive Change where
  | host (host : Given)
  | port (port : UInt16)
  | user (user : Given)
  | value (key value : Given)
deriving DecidableEq, Repr

/-- Sets a value. Whatever is wrong with it, there is one refusal. -/
def Builder.setGiven (builder : Builder) (key value : Given) : Except Fault Builder :=
  match requiredText "key" key, requiredText "val" value with
  | .ok key, .ok value =>
    match builder.set? key value with
    | some builder => .ok builder
    | none => .error .refusedValue
  | _, _ => .error .refusedValue

def Builder.apply (builder : Builder) : Change → Except Fault Builder
  | .host given => (optionalText "nn" given).map builder.withHost
  | .port port => .ok (builder.withPort port)
  | .user given => (optionalText "userName" given).map builder.withUser
  | .value key value => builder.setGiven key value

def changed : Option Builder → Change → Except Fault Builder
  | none, _ => .error .nullBuilder
  | some builder, change => builder.apply change

def lookupArguments (builder : Option Builder) (key : Given) (present : Bool) :
    Except Fault (Builder × String) :=
  match builder with
  | none => .error .nullBuilder
  | some builder =>
    match requiredText "key" key with
    | .error fault => .error fault
    | .ok key => if present then .ok (builder, key) else .error (.nullArgument "val")

/-- A missing text is no failure. -/
def lookUpText (builder : Option Builder) (key : Given) (present : Bool) :
    Except Fault (Option String) :=
  (lookupArguments builder key present).map fun (builder, key) => builder.text? key

def lookUpInteger (builder : Option Builder) (key : Given) (present : Bool) : Except Fault Int32 :=
  (lookupArguments builder key present).bind fun (builder, key) => builder.integer key

end DfsClient.Boundary
