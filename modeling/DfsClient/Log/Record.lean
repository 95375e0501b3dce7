import DfsClient.Log.Level
import DfsClient.Text.Utf8

/-! Log records: the record of an engine or an embedder, the form in which it
reaches a handler across the boundary, and copies that a handler keeps. -/

namespace DfsClient.Log

/-- Where a record was written. That of the records of the engine in memory is left out here. -/
structure Source where
  file : String
  line : UInt32
deriving DecidableEq, Repr

structure Record where
  level : Level
  component : Component
  message : String
  source : Option Source := none
deriving DecidableEq, Repr

structure Delivered where
  level : Int32
  component : Int32
  message : String
  source : Option (String × Int32)
deriving DecidableEq, Repr

/-- A line number too large for the boundary shows as the largest one. -/
def narrowLine (line : UInt32) : Int32 :=
  if line.toNat ≤ 2147483647 then Int32.ofNat line.toNat else 2147483647

/-- The message ends at its first NUL, as text does across the boundary. -/
def Record.deliver (record : Record) : Delivered where
  level := record.level.code
  component := record.component.code
  message := Text.cutAtNul record.message
  source := record.source.map fun source => (source.file, narrowLine source.line)

inductive Owner where
  | caller
  | copy
deriving DecidableEq, Repr

structure HeldText where
  owner : Owner
  bytes : List UInt8
deriving DecidableEq, Repr

/-- A record laid out by a caller, with texts that may be absent and numbers
that need not name a level or a component. -/
structure Raw where
  level : Int32
  component : Int32
  message : Option HeldText
  file : Option HeldText
  line : Int32
deriving DecidableEq, Repr

/-- A copy owns its message; the file name stays the caller's. -/
def Raw.copy (raw : Raw) : Raw :=
  { raw with message := raw.message.map fun text => ⟨.copy, Text.beforeNul text.bytes⟩ }

end DfsClient.Log
