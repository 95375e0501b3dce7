import DfsClient.Text.Utf8

/-! Fetching the last error message into a caller's buffer. -/

namespace DfsClient.Boundary

/-- How many message bytes fit before the closing NUL. -/
def copiedLength (message : List UInt8) (length : Int32) : Nat :=
  min message.length (length.toInt.toNat - 1)

/-- The buffer afterwards: message bytes, one NUL, then its own old bytes. A
buffer that is absent or shorter than one byte stays as it is. -/
def fetchMessage (message : List UInt8) (length : Int32) (present : Bool) (buffer : List UInt8) :
    List UInt8 :=
  if present ∧ 1 ≤ length.toInt then
    message.take (copiedLength message length) ++ 0 :: buffer.drop (copiedLength message length + 1)
  else
    buffer

end DfsClient.Boundary
