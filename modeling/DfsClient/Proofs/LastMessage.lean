import DfsClient.Client.Program
import DfsClient.Formats.Standard
import DfsClient.Proofs.Recording

/-! Fetching the last error. A fetch stores as many bytes of the message as fit before one NUL, and that NUL.
It touches nothing behind that, so nothing outside the room that it was given, and it leaves the error as it is. -/

namespace DfsClient
open Boundary

namespace Boundary

/-- Bytes were written over the start of a buffer, and nothing else was. -/
structure Overwrites (written before after : List UInt8) : Prop where
  size : after.length = before.length
  stored : ∀ i < written.length, after[i]? = written[i]?
  kept : ∀ i, written.length ≤ i → after[i]? = before[i]?

theorem overwrites_append {written before : List UInt8} (fits : written.length ≤ before.length) :
    Overwrites written before (written ++ before.drop written.length) where
  size := by
    rw [List.length_append, List.length_drop]
    omega
  stored _ inside := List.getElem?_append_left inside
  kept i outside := by
    rw [List.getElem?_append_right outside, List.getElem?_drop, Nat.add_sub_cancel' outside]

/-- The buffer begins with whatever the written bytes begin with. -/
theorem Overwrites.begins {front rest before after : List UInt8} (overwrites : Overwrites (front ++ rest) before after) :
    after.take front.length = front := by
  apply List.ext_getElem?
  intro i
  by_cases inside : i < front.length
  · have written : i < (front ++ rest).length := by
      rw [List.length_append]
      omega
    rw [List.getElem?_take_of_lt inside, overwrites.stored i written, List.getElem?_append_left inside]
  · have beyond : front.length ≤ i := Nat.le_of_not_lt inside
    rw [List.getElem?_take_eq_none beyond, List.getElem?_eq_none beyond]

variable {message buffer : List UInt8} {length : Int32}

/-- The NUL fits behind what is copied. -/
theorem copiedLength_lt (room : 1 ≤ length.toInt) : copiedLength message length < length.toInt.toNat := by
  unfold copiedLength
  omega

theorem length_take_copied : (message.take (copiedLength message length)).length = copiedLength message length :=
  List.length_take_of_le (Nat.min_le_left ..)

theorem fetchMessage_no_room {present : Bool} (none : present = false ∨ length.toInt < 1) :
    fetchMessage message length present buffer = buffer := by
  apply if_neg
  rintro ⟨there, room⟩
  obtain absent | short := none
  · cases absent.symm.trans there
  · omega

theorem fetchMessage_overwrites (room : 1 ≤ length.toInt) (fits : length.toInt ≤ buffer.length) :
    Overwrites (message.take (copiedLength message length) ++ [0]) buffer
      (fetchMessage message length true buffer) := by
  have size : (message.take (copiedLength message length) ++ [0]).length = copiedLength message length + 1 := by
    rw [List.length_append, length_take_copied, List.length_singleton]
  have stored : fetchMessage message length true buffer =
      (message.take (copiedLength message length) ++ [0]) ++
        buffer.drop (message.take (copiedLength message length) ++ [0]).length := by
    rw [size, List.append_assoc]
    exact if_pos ⟨rfl, room⟩
  have closes : copiedLength message length < length.toInt.toNat := copiedLength_lt room
  rw [stored]
  apply overwrites_append
  omega

theorem fetchMessage_begins (message : List UInt8) (room : 1 ≤ length.toInt) (fits : length.toInt ≤ buffer.length) :
    (fetchMessage message length true buffer).take (copiedLength message length) =
      message.take (copiedLength message length) := by
  have begins := (@fetchMessage_overwrites message _ _ room fits).begins
  rw [length_take_copied] at begins
  exact begins

end Boundary

namespace Client

variable {engine : Engine}

theorem lastError_report (client : Client engine) (thread : Nat) (errno : Int32) (text : String) :
    ((client.resume thread ((client.caller thread).report errno text)).threads thread).lastError = (errno, text) :=
  congrArg (fun caller => caller.slots.lastError) (caller_resume_same client thread _)

/-- A fetch of the last error stays in its room. What a thread recorded last is what it fetches. Without a buffer
or without room nothing is stored. Else the bytes of the message that fit before a NUL are stored, and the NUL,
and all other bytes stay as they are. The client stays as it is, so that a fetch with less room copies the
beginning of what one with more room copies. -/
theorem last_error_fetch_stays_in_room [Formats] (client : Client engine) (thread : Nat) :
    let message := Text.encode (client.threads thread).message
    let count (length : Int32) := min message.length (length.toInt.toNat - 1)
    (∀ errno text,
      ((client.resume thread ((client.caller thread).report errno text)).threads thread).lastError = (errno, text)) ∧
    (∀ length present buffer, present = false ∨ length.toInt < 1 →
      client.call thread (.fetchMessage length present buffer) = (.buffer buffer, client)) ∧
    (∀ (length : Int32) (buffer : List UInt8), 1 ≤ length.toInt → length.toInt ≤ buffer.length →
      ∃ after, client.call thread (.fetchMessage length true buffer) = (.buffer after, client) ∧
        Overwrites (message.take (count length) ++ [0]) buffer after ∧
        (message.take (count length) ++ [0]).length = count length + 1 ∧ count length + 1 ≤ length.toInt.toNat) ∧
    ∀ (shorter longer : Int32) (one other : List UInt8), 1 ≤ shorter.toInt → shorter.toInt ≤ longer.toInt →
      shorter.toInt ≤ one.length → longer.toInt ≤ other.length →
      ∃ first second,
        client.run [(thread, .fetchMessage shorter true one), (thread, .fetchMessage longer true other)] =
          ([.buffer first, .buffer second], client) ∧
        first.take (count shorter) <+: second.take (count longer) := by
  intro message count
  have size (length : Int32) : (message.take (count length)).length = count length := length_take_copied
  refine ⟨fun errno text => lastError_report client thread errno text, fun length present buffer none => ?_,
    fun length buffer room fits => ?_, fun shorter longer one other room more fits fits' => ?_⟩
  · exact congrArg (fun after => (Answer.buffer after, client)) (fetchMessage_no_room none)
  · refine ⟨_, rfl, fetchMessage_overwrites room fits, ?_, copiedLength_lt room⟩
    rw [List.length_append, size, List.length_singleton]
  · refine ⟨_, _, rfl, ?_⟩
    have first := fetchMessage_begins message room fits
    have second := fetchMessage_begins message (Int.le_trans room more) fits'
    have fewer : count shorter ≤ count longer := by
      unfold count
      omega
    rw [show List.take (count shorter) _ = _ from first, show List.take (count longer) _ = _ from second]
    exact List.take_prefix_take_left fewer

open scoped Formats.Standard

/-- A NUL inside a message is copied like any other byte, and what is behind the room stays. -/
theorem text_with_nul_is_fetched :
    let begun := start ⟨fun _ => .missing⟩ {} fun _ _ _ => 0
    let client := begun.resume 0 ((begun.caller 0).report 22 "a\x00bc")
    1 ≤ (3 : Int32).toInt ∧ (3 : Int32).toInt ≤ (List.replicate 5 (85 : UInt8)).length ∧
      ∃ after, client.call 0 (.fetchMessage 3 true (List.replicate 5 85)) = (.buffer after, client) ∧
        Overwrites [97, 0, 0] (List.replicate 5 85) after := by
  intro begun client
  have room : 1 ≤ (3 : Int32).toInt := by decide
  have fits : (3 : Int32).toInt ≤ (List.replicate 5 (85 : UInt8)).length := by decide
  obtain ⟨-, -, stores, -⟩ := last_error_fetch_stays_in_room client 0
  obtain ⟨after, answered, overwrites, -⟩ := stores 3 (List.replicate 5 85) room fits
  have message : Text.encode (client.threads 0).message = [97, 0, 98, 99] := by decide
  simp only [message] at overwrites
  exact ⟨room, fits, after, answered, overwrites⟩

end Client
end DfsClient
