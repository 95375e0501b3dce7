import DfsClient.Client.Call
import DfsClient.Engine.Memory.Session
import DfsClient.Proofs.Cursor

/-! The methods by which the memory engine works on a file, against the operations
of the cursor that the file represents. -/

namespace DfsClient

def Answer.number : Answer → Int
  | .code n => n.toInt
  | .position n => n.toInt
  | .transfer count _ => count.toInt
  | _ => 0

def Answer.stored : Answer → List UInt8
  | .transfer _ stored => stored
  | _ => []

namespace Proofs
open Boundary

structure Represents (file : Memory.File) (cursor : Cursor) : Prop where
  path : file.path = cursor.path
  content : file.bytes = cursor.content
  position : file.position = cursor.position
  canceled : file.canceled = cursor.canceled

def readEvent (file : Memory.File) (count : Nat) : Event :=
  ⟨fileEvents.read, file.cluster, some file.path, Int64.ofNat count⟩

namespace Represents

variable {file : Memory.File} {cursor : Cursor}

theorem count_eq (shown : Represents file cursor) (length offset : Nat) :
    min length (file.length - min offset file.length) =
      (cursor.between offset (offset + length)).length := by
  rw [Cursor.length_between, Memory.File.length, shown.content]
  omega

theorem slice_eq (shown : Represents file cursor) (length offset : Nat) :
    file.slice offset (cursor.between offset (offset + length)).length =
      cursor.between offset (offset + length) := by
  rw [Cursor.length_between]
  unfold Memory.File.slice Cursor.between
  rw [shown.content, List.extract_eq_take_drop]
  by_cases inside : offset ≤ cursor.content.length
  · rw [Nat.min_eq_left inside]
  · have beyond : cursor.content.length ≤ offset := by omega
    rw [Nat.min_eq_right beyond, List.drop_eq_nil_of_le beyond, List.drop_eq_nil_of_le (Nat.le_refl _)]

end Represents

variable {World α : Type}

/-- What a scene says about the observer of a file after it was asked so often. -/
def Asked (file : Memory.File) (times : Nat) (before after : Scene World) : Prop :=
  ∀ later event, after.ambient.responseTo file.observer later event =
    before.ambient.responseTo file.observer (later + times) event

/-- A method of the engine comes to what the cursor's outcome says, once its answer is
presented as a call presents it. -/
structure ComesTo (file : Memory.File) (scene : Scene World) (present : Option α → Answer)
    (times : Nat) (outcome : Except Status Cursor.Effect)
    (got : Result α × Memory.File × Scene World) : Prop where
  asked : Asked file times scene got.2.2
  observer : got.2.1.observer = file.observer
  cluster : got.2.1.cluster = file.cluster
  path : got.2.1.path = file.path
  failed : ∀ status, outcome = .error status → got.1 = .failed status ∧ got.2.1 = file
  succeeded : ∀ effect, outcome = .ok effect → Represents got.2.1 effect.cursor ∧
    ∃ answer, got.1 = .ok answer ∧ (present (some answer)).number = effect.number ∧
      (present (some answer)).stored = effect.stored

/-- Reading without moving: the observer is asked once, and its reply decides. -/
theorem copyAt_going {file : Memory.File} {cursor : Cursor} (shown : Represents file cursor)
    (going : cursor.canceled = false) (length offset : Nat) (scene : Scene World) :
    ∃ after, Asked file 1 scene after ∧
      file.copyAt length offset scene =
        (match scene.ambient.responseTo file.observer 0
            (readEvent file (cursor.between offset (offset + length)).length) with
          | .fail status => .failed status
          | .proceed => .ok ⟨(cursor.between offset (offset + length)).length,
              cursor.between offset (offset + length)⟩, after) := by
  unfold Memory.File.copyAt
  simp only [shown.canceled, going, Bool.false_eq_true, ↓reduceIte, shown.count_eq, shown.slice_eq]
  obtain ⟨told, answer, -, later⟩ := scene.tell?_spec file.observer
    (readEvent file (cursor.between offset (offset + length)).length)
  unfold readEvent at answer
  rw [answer]
  unfold readEvent
  cases scene.ambient.responseTo file.observer 0 _ with
  | fail status => exact ⟨told, later, rfl⟩
  | proceed =>
    refine ⟨_, fun more event => ?_, rfl⟩
    rw [← later more event]
    exact Ambient.responseTo_log ..

theorem copyAt_canceled {file : Memory.File} (canceled : file.canceled = true)
    (length offset : Nat) (scene : Scene World) :
    file.copyAt length offset scene = (.failed .canceled, scene) := by
  simp only [Memory.File.copyAt, canceled, ↓reduceIte]

namespace ComesTo

variable {file : Memory.File} {cursor : Cursor} {reply : Nat → Response}

/-- A call answers the count of bytes read as it is, since it asked for no more. -/
theorem number_transfer (cursor : Cursor) (length : Int32) (offset : Nat) (room : 0 ≤ length.toInt)
    (stored : List UInt8) :
    (Answer.ofTransfer (some ⟨(cursor.between offset (offset + length.toInt.toNat)).length,
      stored⟩)).number = (cursor.between offset (offset + length.toInt.toNat)).length := by
  have count : (cursor.between offset (offset + length.toInt.toNat)).length ≤ length.toInt.toNat := by
    rw [Cursor.length_between]
    omega
  have most := length.toInt_lt
  apply Int32.toInt_ofNat_of_lt
  change (cursor.between offset (offset + length.toInt.toNat)).length < _
  omega

theorem stopped (scene : Scene World) (present : Option α → Answer) (canceled : cursor.canceled = true)
    (operation : Operation) (other : operation ≠ .cancel) :
    ComesTo file scene present (cursor.asks operation).toNat (cursor.apply reply operation)
      (.failed .canceled, file, scene) := by
  have silent : cursor.asks operation = false := by
    cases operation <;> simp_all [Cursor.asks]
  rw [Cursor.apply_canceled canceled reply other, silent]
  exact ⟨fun _ _ => rfl, rfl, rfl, rfl, fun _ same => by cases same; exact ⟨rfl, rfl⟩, fun _ same => by cases same⟩

theorem readAt (shown : Represents file cursor) (scene : Scene World)
    (replies : ∀ count, scene.ambient.responseTo file.observer 0 (readEvent file count) = reply count)
    (start : Nat) (length : Int32) (room : 0 ≤ length.toInt) :
    ComesTo file scene Answer.ofTransfer (cursor.asks (.readAt start length.toInt.toNat)).toNat
      (cursor.apply reply (.readAt start length.toInt.toNat))
      (file.readAt length.toInt.toNat start scene) := by
  unfold Memory.File.readAt
  cases canceled : cursor.canceled with
  | true =>
    rw [copyAt_canceled (shown.canceled.trans canceled)]
    exact stopped scene _ canceled _ fun same => by cases same
  | false =>
    obtain ⟨after, asked, copied⟩ := copyAt_going shown canceled length.toInt.toNat start scene
    rw [copied, replies]
    simp only [Cursor.apply, Cursor.asks, canceled, Cursor.deliver, Bool.false_eq_true, ↓reduceIte]
    cases reply _ with
    | fail status =>
      exact ⟨asked, rfl, rfl, rfl, fun _ same => by cases same; exact ⟨rfl, rfl⟩, fun _ same => by cases same⟩
    | proceed =>
      refine ⟨asked, rfl, rfl, rfl, (fun _ same => by cases same), fun _ same => ?_⟩
      cases same
      exact ⟨shown, _, rfl, number_transfer cursor length start room _, rfl⟩

theorem read (shown : Represents file cursor) (scene : Scene World)
    (replies : ∀ count, scene.ambient.responseTo file.observer 0 (readEvent file count) = reply count)
    (length : Int32) (room : 0 ≤ length.toInt) :
    ComesTo file scene Answer.ofTransfer (cursor.asks (.read length.toInt.toNat)).toNat
      (cursor.apply reply (.read length.toInt.toNat)) (file.read length.toInt.toNat scene) := by
  unfold Memory.File.read
  cases canceled : cursor.canceled with
  | true =>
    rw [copyAt_canceled (shown.canceled.trans canceled)]
    exact stopped scene _ canceled _ fun same => by cases same
  | false =>
    obtain ⟨after, asked, copied⟩ := copyAt_going shown canceled length.toInt.toNat file.position scene
    rw [copied, replies, shown.position]
    simp only [Cursor.apply, Cursor.asks, canceled, Cursor.deliver, Bool.false_eq_true, ↓reduceIte]
    cases reply _ with
    | fail status =>
      exact ⟨asked, rfl, rfl, rfl, fun _ same => by cases same; exact ⟨rfl, rfl⟩, fun _ same => by cases same⟩
    | proceed =>
      refine ⟨asked, rfl, rfl, rfl, (fun _ same => by cases same), fun _ same => ?_⟩
      cases same
      exact ⟨⟨shown.path, shown.content, rfl, shown.canceled⟩, _, rfl,
        number_transfer cursor length cursor.position room _, rfl⟩

theorem seek (shown : Represents file cursor) (scene : Scene Memory.engine.World) (target : Nat) :
    ComesTo file scene (fun answer => .ofUnit (answer.map fun _ => ()))
      (cursor.asks (.seek target)).toNat (cursor.apply reply (.seek target))
      (Memory.engine.seek file (.start target) scene) := by
  cases canceled : cursor.canceled with
  | true =>
    have nothing : Memory.engine.seek file (.start target) scene = (.failed .canceled, file, scene) := by
      simp only [Memory.engine, Memory.File.seek, shown.canceled, canceled, ↓reduceIte]
      rfl
    rw [nothing]
    exact stopped scene _ canceled _ fun same => by cases same
  | false =>
    simp only [Memory.engine, Memory.File.seek, Memory.File.target, Memory.File.length, shown.canceled,
      shown.content, shown.path, canceled, Cursor.apply, Cursor.asks, Bool.false_eq_true, ↓reduceIte,
      Int.natCast_nonneg, true_and, Int.ofNat_le]
    by_cases inside : target ≤ cursor.content.length
    · simp only [inside, ↓reduceIte, ↓reduceDIte]
      refine ⟨fun _ _ => rfl, rfl, rfl, shown.path.symm, (fun _ same => by cases same), fun _ same => ?_⟩
      cases same
      exact ⟨⟨rfl, rfl, rfl, rfl⟩, _, rfl, rfl, rfl⟩
    · simp only [inside, ↓reduceIte, ↓reduceDIte]
      exact ⟨fun _ _ => rfl, rfl, rfl, rfl, fun _ same => by cases same; exact ⟨rfl, rfl⟩, fun _ same => by cases same⟩

theorem number_position (cursor : Cursor) (small : cursor.content.length < 9223372036854775808) :
    (Answer.ofPosition (some cursor.position)).number = cursor.position := by
  have inside := cursor.inside
  apply Int64.toInt_ofNat_of_lt
  omega

theorem tell (shown : Represents file cursor) (scene : Scene Memory.engine.World)
    (small : cursor.content.length < 9223372036854775808) :
    ComesTo file scene Answer.ofPosition (cursor.asks .tell).toNat (cursor.apply reply .tell)
      (Memory.engine.seek file (.current 0) scene) := by
  cases canceled : cursor.canceled with
  | true =>
    have nothing : Memory.engine.seek file (.current 0) scene = (.failed .canceled, file, scene) := by
      simp only [Memory.engine, Memory.File.seek, shown.canceled, canceled, ↓reduceIte]
      rfl
    rw [nothing]
    exact stopped scene _ canceled _ fun same => by cases same
  | false =>
    have inside := cursor.inside
    simp only [Memory.engine, Memory.File.seek, Memory.File.target, Memory.File.length, shown.canceled,
      shown.content, shown.position, canceled, Cursor.apply, Cursor.asks, Bool.false_eq_true, ↓reduceIte,
      Int.add_zero, Int.natCast_nonneg, true_and, Int.ofNat_le, inside, Int.toNat_natCast]
    refine ⟨fun _ _ => rfl, rfl, rfl, rfl, (fun _ same => by cases same), fun _ same => ?_⟩
    cases same
    exact ⟨⟨shown.path, rfl, rfl, canceled.symm⟩, _, rfl, number_position cursor small, rfl⟩

theorem cancel (shown : Represents file cursor) (scene : Scene Memory.engine.World) :
    ComesTo file scene Answer.ofUnit (cursor.asks .cancel).toNat (cursor.apply reply .cancel)
      (let (answer, file, scene) := Memory.engine.cancel file scene
       (answer.map .ok, file, scene)) := by
  refine ⟨fun _ _ => Ambient.responseTo_log .., rfl, rfl, rfl, (fun _ same => by cases same), fun _ same => ?_⟩
  cases same
  exact ⟨⟨shown.path, shown.content, shown.position, rfl⟩, (), rfl, rfl, rfl⟩

end ComesTo

end Proofs
end DfsClient
