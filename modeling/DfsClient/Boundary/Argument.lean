import DfsClient.Boundary.Fault
import DfsClient.Text.Utf8

/-! Reading what a caller hands over. Text comes as bytes that end at the first
NUL, or is absent. Lengths and positions come as signed numbers. -/

namespace DfsClient.Boundary

/-- Bytes that a caller points to, if the pointer is not null. -/
abbrev Given := Option (List UInt8)

def optionalText (name : String) : Given → Except Fault (Option String)
  | none => .ok none
  | some bytes =>
    match Text.decode? (Text.beforeNul bytes) with
    | some text => .ok (some text)
    | none => .error (.invalidText name)

def requiredText (name : String) : Given → Except Fault String
  | none => .error (.nullArgument name)
  | some bytes =>
    match Text.decode? (Text.beforeNul bytes) with
    | some text => .ok text
    | none => .error (.invalidText name)

/-- The room in a buffer. Only a buffer without room may be absent. -/
def room (length : Int32) (present : Bool) : Except Fault Nat :=
  if length.toInt < 0 then .error (.negative "length")
  else if 0 < length.toInt ∧ present = false then .error (.nullArgument "buffer")
  else .ok length.toInt.toNat

def offset (name : String) (position : Int64) : Except Fault Nat :=
  if position.toInt < 0 then .error (.negative name) else .ok position.toInt.toNat

/-- A place in a file with the room to read into. The place is looked at first. -/
def roomAt (position : Int64) (length : Int32) (present : Bool) : Except Fault (Nat × Nat) :=
  match offset "position" position with
  | .error fault => .error fault
  | .ok start =>
    match room length present with
    | .error fault => .error fault
    | .ok count => .ok (start, count)

end DfsClient.Boundary
