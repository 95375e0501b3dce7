import DfsClient.Proofs.Recording
import Mathlib.Logic.Function.Basic

/-! An open file as its caller may think of it: unchanging content, a cursor that
stays inside it, and a flag that is set for good by the first cancel. The uses of a
file are functions of these three and of what the file's observer replies. -/

namespace DfsClient.Proofs
open Boundary

structure Cursor where
  path : String
  content : List UInt8
  position : Nat
  canceled : Bool
  inside : position ≤ content.length

inductive Operation where
  | read (count : Nat)
  | readAt (start count : Nat)
  | seek (target : Nat)
  | tell
  | cancel

/-- A use as callers make it, with a buffer that may be absent. -/
inductive FileUse where
  | read (length : Int32) (buffer : Option (List UInt8))
  | readAt (position : Int64) (length : Int32) (buffer : Option (List UInt8))
  | seek (position : Int64)
  | tell
  | cancel

namespace FileUse

def buffer : FileUse → List UInt8
  | .read _ buffer | .readAt _ _ buffer => buffer.getD []
  | _ => []

/-- A buffer may be absent only where nothing is to be stored. -/
def roomOf (length : Int32) (buffer : Option (List UInt8)) : Except Fault Nat :=
  if length.toInt < 0 then .error (.negative "length")
  else if 0 < length.toInt ∧ buffer = none then .error (.nullArgument "buffer")
  else .ok length.toInt.toNat

/-- Arguments are in order when nothing is negative and there is a buffer for what
is to be read. The position of a read is looked at before its length. -/
def operation : FileUse → Except Fault Operation
  | .read length buffer => (roomOf length buffer).map .read
  | .readAt position length buffer =>
    if position.toInt < 0 then .error (.negative "position")
    else (roomOf length buffer).map (.readAt position.toInt.toNat)
  | .seek position =>
    if position.toInt < 0 then .error (.negative "desiredPos")
    else .ok (.seek position.toInt.toNat)
  | .tell => .ok .tell
  | .cancel => .ok .cancel

end FileUse

namespace Cursor

def opened (path : String) (content : List UInt8) : Cursor := ⟨path, content, 0, false, Nat.zero_le _⟩

def between (cursor : Cursor) (first past : Nat) : List UInt8 :=
  cursor.content.extract (min first cursor.content.length) (min past cursor.content.length)

theorem length_between (cursor : Cursor) (first past : Nat) :
    (cursor.between first past).length =
      min past cursor.content.length - min first cursor.content.length := by
  simp only [between, List.extract_eq_take_drop, List.length_take, List.length_drop]
  omega

def past (cursor : Cursor) (count : Nat) : Cursor :=
  { cursor with
    position := cursor.position + (cursor.between cursor.position (cursor.position + count)).length
    inside := by
      have inside := cursor.inside
      rw [length_between]
      omega }

def outside (cursor : Cursor) (target : Nat) : Status :=
  .invalidArgument ("Seek offset " ++ toString (target : Int) ++ " outside of " ++ cursor.path
    ++ " (length " ++ toString cursor.content.length ++ ")")

/-- What a use of the file comes to: a number, bytes for the caller's buffer, and the
cursor afterwards. -/
structure Effect where
  number : Int
  stored : List UInt8 := []
  cursor : Cursor

/-- Bytes go to the caller unless the observer, told of their count, makes the read fail. -/
def deliver (bytes : List UInt8) (reply : Nat → Response) (cursor : Cursor) : Except Status Effect :=
  match reply bytes.length with
  | .proceed => .ok ⟨bytes.length, bytes, cursor⟩
  | .fail status => .error status

/-- The outcome of an operation, where a failure leaves no new cursor. Canceling always
succeeds; after it everything else fails. -/
def apply (cursor : Cursor) (reply : Nat → Response) (operation : Operation) :
    Except Status Effect :=
  match operation with
  | .cancel => .ok { number := 0, cursor := { cursor with canceled := true } }
  | .tell =>
    if cursor.canceled then .error .canceled
    else .ok { number := cursor.position, cursor }
  | .seek target =>
    if cursor.canceled then .error .canceled
    else if inside : target ≤ cursor.content.length then
      .ok { number := 0, cursor := { cursor with position := target, inside } }
    else .error (cursor.outside target)
  | .readAt start count =>
    if cursor.canceled then .error .canceled
    else deliver (cursor.between start (start + count)) reply cursor
  | .read count =>
    if cursor.canceled then .error .canceled
    else deliver (cursor.between cursor.position (cursor.position + count)) reply (cursor.past count)

theorem apply_canceled {cursor : Cursor} (canceled : cursor.canceled = true) (reply : Nat → Response)
    {operation : Operation} (other : operation ≠ .cancel) :
    cursor.apply reply operation = .error .canceled := by
  cases operation with
  | cancel => exact absurd rfl other
  | read | readAt | seek | tell => simp only [apply, canceled, ↓reduceIte]

theorem content_apply {cursor : Cursor} {reply : Nat → Response} {operation : Operation}
    {effect : Effect} (outcome : cursor.apply reply operation = .ok effect) :
    effect.cursor.content = cursor.content := by
  cases operation with
  | cancel => cases outcome; rfl
  | tell =>
    simp only [apply] at outcome
    split at outcome
    · cases outcome
    · cases outcome; rfl
  | seek target =>
    simp only [apply] at outcome
    split at outcome
    · cases outcome
    · split at outcome
      · cases outcome; rfl
      · cases outcome
  | readAt start count | read count =>
    simp only [apply, deliver] at outcome
    split at outcome
    · cases outcome
    · split at outcome
      · cases outcome; rfl
      · cases outcome

/-- Reads of a file that is not canceled are what its observer is told of. -/
def asks (cursor : Cursor) : Operation → Bool
  | .read _ | .readAt .. => !cursor.canceled
  | _ => false

end Cursor

/-- What a caller sees of a use: the number it answers, the last error of the thread
afterwards, and the caller's buffer afterwards. -/
structure Sight where
  number : Int
  error : LastError
  buffer : List UInt8
deriving DecidableEq

/-- An open file in use: how often its observer was asked, and each thread's last error. -/
structure Desk where
  cursor : Cursor
  asked : Nat := 0
  errors : Nat → LastError

namespace Desk

/-- A use fails: the answer is -1, and only the thread's last error changes. -/
def fail (desk : Desk) (thread : Nat) (use : FileUse) (failure : Failure) : Sight × Desk :=
  let error := failure.error?.getD (desk.errors thread)
  (⟨-1, error, use.buffer⟩, { desk with errors := Function.update desk.errors thread error })

/-- One use by a thread, where `replies` says how the observer replies when asked. -/
def use (replies : Nat → Nat → Response) (desk : Desk) (thread : Nat) (use : FileUse) :
    Sight × Desk :=
  match use.operation with
  | .error fault => desk.fail thread use (.refused fault)
  | .ok operation =>
    let reply := replies desk.asked
    let desk := { desk with asked := desk.asked + (desk.cursor.asks operation).toNat }
    match desk.cursor.apply reply operation with
    | .error status => desk.fail thread use (.failed status)
    | .ok effect =>
      let buffer := effect.stored ++ use.buffer.drop effect.stored.length
      (⟨effect.number, desk.errors thread, buffer⟩, { desk with cursor := effect.cursor })

theorem use_canceled {desk : Desk} (canceled : desk.cursor.canceled = true)
    (replies : Nat → Nat → Response) (thread : Nat) {use : FileUse} {operation : Operation}
    (valid : use.operation = .ok operation) (other : operation ≠ .cancel) :
    (desk.use replies thread use).1 = ⟨-1, (4, "Operation canceled"), use.buffer⟩ := by
  simp only [Desk.use, valid, Cursor.apply_canceled canceled _ other]
  rfl

def run (replies : Nat → Nat → Response) (desk : Desk) : List (Nat × FileUse) → List Sight × Desk
  | [] => ([], desk)
  | (thread, use) :: rest =>
    let (sight, desk) := desk.use replies thread use
    let (sights, desk) := desk.run replies rest
    (sight :: sights, desk)

end Desk
end DfsClient.Proofs
