import DfsClient.Proofs.MemoryEngine

/-! Seeks in open files of the memory engine. The place that is sought is the start, the cursor or the end of the file,
plus an offset, as integers without bounds. Every such sum fits in words of 128 bits, so that an engine that computes in
them goes to the same place. A seek succeeds exactly if the place is in the file or at its end, and nothing that is done
with a file takes its cursor past the end. -/

namespace DfsClient

/-- What a seek is relative to, with the offset in words of 64 bits as callers have it. -/
inductive Whence where
  | start (offset : UInt64)
  | current (delta : Int64)
  | fromEnd (delta : Int64)
deriving DecidableEq, Repr

namespace Whence

def target : Whence → SeekTarget
  | start offset => .start offset.toNat
  | current delta => .current delta.toInt
  | fromEnd delta => .fromEnd delta.toInt

/-- The place that is sought, of whatever sign and size. -/
def place (cursor length : Nat) : Whence → Int
  | start offset => offset.toNat
  | current delta => cursor + delta.toInt
  | fromEnd delta => length + delta.toInt

/-- The same in words of 128 bits, where sums may wrap. A delta is widened by its sign, everything else by zeros. -/
def widePlace (cursor length : UInt64) : Whence → BitVec 128
  | start offset => offset.toBitVec.setWidth 128
  | current delta => cursor.toBitVec.setWidth 128 + delta.toBitVec.signExtend 128
  | fromEnd delta => length.toBitVec.setWidth 128 + delta.toBitVec.signExtend 128

theorem toInt_widened (word : UInt64) : (word.toBitVec.setWidth 128).toInt = word.toNat := by
  have bound := word.toNat_lt
  rw [BitVec.toInt_setWidth]
  exact Int.bmod_eq_of_le (by omega) (by omega)

/-- A word and a delta are too small for their sum to wrap. -/
theorem toInt_widened_add (word : UInt64) (delta : Int64) :
    (word.toBitVec.setWidth 128 + delta.toBitVec.signExtend 128).toInt = word.toNat + delta.toInt := by
  have bound := word.toNat_lt
  have least := delta.le_toInt
  have most := delta.toInt_lt
  have extended : (delta.toBitVec.signExtend 128).toInt = delta.toInt :=
    BitVec.toInt_signExtend_of_le (by decide)
  rw [BitVec.toInt_add, toInt_widened, extended]
  exact Int.bmod_eq_of_le (by omega) (by omega)

theorem toInt_widePlace (whence : Whence) (cursor length : UInt64) :
    (whence.widePlace cursor length).toInt = whence.place cursor.toNat length.toNat := by
  cases whence with
  | start offset => exact toInt_widened offset
  | current delta => exact toInt_widened_add cursor delta
  | fromEnd delta => exact toInt_widened_add length delta

/-- A place that is found to be no less than zero and no more than a word loses nothing in being cut to a word. -/
theorem toNat_narrowed {wide : BitVec 128} (least : 0 ≤ wide.toInt) (most : wide.toInt < 18446744073709551616) :
    (UInt64.ofBitVec (wide.setWidth 64)).toNat = wide.toInt.toNat := by
  have same : wide.toInt = wide.toNat := by
    have bound := wide.isLt
    rw [BitVec.toInt_eq_toNat_cond] at least ⊢
    split at least
    next small => rw [if_pos small]
    next => omega
  rw [same] at most ⊢
  change (wide.setWidth 64).toNat = _
  rw [BitVec.toNat_setWidth, Int.toNat_natCast]
  exact Nat.mod_eq_of_lt (by omega)

end Whence

namespace Memory

namespace File

/-- Why a place cannot be sought. -/
def outside (file : File) (place : Int) : Status :=
  .invalidArgument ("Seek offset " ++ toString place ++ " outside of " ++ file.path ++ " (length "
    ++ toString file.length ++ ")")

/-- What comes of a seek to a place. -/
def sought (file : File) (place : Int) : Except Status Nat × File :=
  if 0 ≤ place ∧ place ≤ file.length then (.ok place.toNat, { file with position := place.toNat })
  else (.error (file.outside place), file)

/-- The same for a place in a wide word, which is cut to 64 bits once it is known to be in the file. -/
def soughtWide (file : File) (place : BitVec 128) : Except Status UInt64 × File :=
  if (0#128).sle place && place.sle ((UInt64.ofNat file.length).toBitVec.setWidth 128) then
    let cursor := UInt64.ofBitVec (place.setWidth 64)
    (.ok cursor, { file with position := cursor.toNat })
  else (.error (file.outside place.toInt), file)

/-- A seek that is computed in words. -/
def seekWide (file : File) (whence : Whence) : Except Status UInt64 × File :=
  if file.canceled then (.error .canceled, file)
  else file.soughtWide (whence.widePlace (UInt64.ofNat file.position) (UInt64.ofNat file.length))

variable {file : File}

theorem target_place (file : File) (whence : Whence) :
    file.target whence.target = whence.place file.position file.length := by
  cases whence <;> rfl

theorem seek_sought (going : file.canceled = false) (goal : SeekTarget) :
    file.seek goal = file.sought (file.target goal) :=
  if_neg (Bool.not_eq_true _ ▸ going)

theorem toNat_ofNat_length (small : file.length < 9223372036854775808) :
    (UInt64.ofNat file.length).toNat = file.length :=
  UInt64.toNat_ofNat_of_lt (Nat.lt_trans small (by decide))

theorem sought_toInt (small : file.length < 9223372036854775808) (place : BitVec 128) :
    file.sought place.toInt = ((file.soughtWide place).1.map UInt64.toNat, (file.soughtWide place).2) := by
  have past : ((UInt64.ofNat file.length).toBitVec.setWidth 128).toInt = file.length := by
    rw [Whence.toInt_widened, toNat_ofNat_length small]
  have checked : ((0#128).sle place && place.sle ((UInt64.ofNat file.length).toBitVec.setWidth 128)) = true ↔
      0 ≤ place.toInt ∧ place.toInt ≤ file.length := by
    rw [Bool.and_eq_true, BitVec.sle_iff_toInt_le, BitVec.sle_iff_toInt_le, past, BitVec.toInt_zero]
  unfold sought soughtWide
  by_cases inside : 0 ≤ place.toInt ∧ place.toInt ≤ file.length
  · have narrowed := Whence.toNat_narrowed inside.1 (by omega)
    rw [if_pos inside, if_pos (checked.mpr inside), ← narrowed]
    rfl
  · rw [if_neg inside, if_neg (mt checked.mp inside)]
    rfl

/-- Computed in words, a seek goes to the same place. -/
theorem seek_eq_seekWide (seated : file.Seated) (whence : Whence) :
    file.seek whence.target = ((file.seekWide whence).1.map UInt64.toNat, (file.seekWide whence).2) := by
  cases canceled : file.canceled with
  | true =>
    unfold seek seekWide
    rw [if_pos canceled, if_pos canceled]
    rfl
  | false =>
    have cursor : (UInt64.ofNat file.position).toNat = file.position :=
      UInt64.toNat_ofNat_of_lt (Nat.lt_trans (Nat.lt_of_le_of_lt seated.position seated.length) (by decide))
    have wide := whence.toInt_widePlace (UInt64.ofNat file.position) (UInt64.ofNat file.length)
    rw [cursor, toNat_ofNat_length seated.length] at wide
    have computed : file.seekWide whence =
        file.soughtWide (whence.widePlace (UInt64.ofNat file.position) (UInt64.ofNat file.length)) :=
      if_neg (Bool.not_eq_true _ ▸ canceled)
    rw [seek_sought canceled, target_place, ← wide, computed]
    exact sought_toInt seated.length _

/-- Two seeks by deltas that both succeed are one by their sum. -/
theorem seek_current_add {first second : Int} {place beyond : Nat} {moved twice : File}
    (once : file.seek (.current first) = (.ok place, moved))
    (again : moved.seek (.current second) = (.ok beyond, twice)) :
    file.seek (.current (first + second)) = (.ok beyond, twice) := by
  obtain ⟨going, there, -, rfl⟩ := seek_ok once
  obtain ⟨-, further, inside, rfl⟩ := seek_ok again
  have target : file.target (.current (first + second)) = beyond := by
    simp only [File.target] at there further ⊢
    omega
  rw [seek_sought going, target, sought, if_pos ⟨Int.natCast_nonneg beyond, Int.ofNat_le.mpr inside⟩]
  rfl

/-- Wherever the cursor is, and whether or not the file was canceled. -/
theorem seek_current_zero (file : File) : (file.seek (.current 0)).2 = file := by
  have here : file.target (.current 0) = file.position := Int.add_zero _
  unfold seek
  rw [here]
  split
  · rfl
  · dsimp only
    split
    · rfl
    · rfl

/-- What may be done with an open file. -/
inductive Access where
  | read (length : Nat)
  | readAt (length offset : Nat)
  | seek (whence : Whence)
  | cancel

/-- A file after an access, in whatever surroundings others have left meanwhile. -/
def after (file : File) (access : Access) (scene : Scene engine.World) : File :=
  match access with
  | .read length => (engine.read file length scene).2.1
  | .readAt length offset => (engine.readAt file length offset scene).2.1
  | .seek whence => (engine.seek file whence.target scene).2.1
  | .cancel => (engine.cancel file scene).2.1

def afterAll (file : File) : List (Access × Scene engine.World) → File
  | [] => file
  | (access, scene) :: rest => (file.after access scene).afterAll rest

theorem after_moves (file : File) (access : Access) (scene : Scene engine.World) :
    file.Moves (file.after access scene) := by
  cases access with
  | read length => exact (file.read_works length scene).moves
  | readAt length offset => exact (file.readAt_works length offset scene).moves
  | seek whence => exact (file.seek_works whence.target scene).moves
  | cancel => exact (file.cancel_works scene).moves

theorem afterAll_moves (file : File) (course : List (Access × Scene engine.World)) :
    file.Moves (file.afterAll course) := by
  induction course generalizing file with
  | nil => exact .refl file
  | cons first rest ih => exact (file.after_moves first.1 first.2).trans (ih _)

/-- Deltas of two seeks that both succeed are too small for their sum to wrap. -/
theorem Seated.delta_add (seated : file.Seated) {first second : Int64} {place beyond : Nat} {moved twice : File}
    (once : file.seek (.current first.toInt) = (.ok place, moved))
    (again : moved.seek (.current second.toInt) = (.ok beyond, twice)) :
    (first + second).toInt = first.toInt + second.toInt := by
  obtain ⟨small, inside⟩ := seated
  obtain ⟨-, there, -, rfl⟩ := seek_ok once
  obtain ⟨-, further, last, rfl⟩ := seek_ok again
  simp only [File.target, File.length] at there further last small inside
  rw [Int64.toInt_add]
  exact Int.bmod_eq_of_le (by omega) (by omega)

/-- A seek asks nobody and leaves no note. -/
theorem engine_seek (file : File) (goal : SeekTarget) (scene : Scene engine.World) :
    engine.seek file goal scene = (.answered (file.seek goal).1, (file.seek goal).2, scene) := rfl

theorem engine_seek_ok_iff {goal : SeekTarget} {scene : Scene engine.World} {place : Nat} {moved : File} :
    engine.seek file goal scene = (.ok place, moved, scene) ↔ file.seek goal = (.ok place, moved) := by
  rw [engine_seek]
  generalize file.seek goal = came
  obtain ⟨answer, after⟩ := came
  constructor
  · intro same
    cases same
    rfl
  · intro same
    cases same
    rfl

/-- A seek in a file that was not canceled goes exactly to its place, as integers without bounds have it, if that is
in the file or at its end, and fails otherwise and leaves the cursor; computed in words it comes to the same. Whatever
is done with a file, the cursor stays inside and the content is the same. A seek by nothing leaves the cursor where it
is, and two seeks by deltas that both succeed are one by their sum. -/
theorem seeks_are_exact (seated : file.Seated) (going : file.canceled = false) :
    (∀ (whence : Whence) (scene : Scene engine.World),
      let place := whence.place file.position file.length
      engine.seek file whence.target scene =
          (if 0 ≤ place ∧ place ≤ file.length then (.ok place.toNat, { file with position := place.toNat }, scene)
          else (.failed (file.outside place), file, scene)) ∧
        engine.seek file whence.target scene =
          (.answered ((file.seekWide whence).1.map UInt64.toNat), (file.seekWide whence).2, scene)) ∧
    (∀ course, let now := file.afterAll course
      now.bytes = file.bytes ∧ now.Seated ∧
        ∀ scene, (engine.seek now (Whence.current 0).target scene).2.1 = now) ∧
    ∀ (first second : Int64) (scene : Scene engine.World) (place beyond : Nat) (moved twice : File),
      engine.seek file (Whence.current first).target scene = (.ok place, moved, scene) →
      engine.seek moved (Whence.current second).target scene = (.ok beyond, twice, scene) →
        (first + second).toInt = first.toInt + second.toInt ∧
          engine.seek file (Whence.current (first + second)).target scene = (.ok beyond, twice, scene) := by
  refine ⟨fun whence scene => ⟨?_, ?_⟩, fun course => ?_, fun first second scene place beyond moved twice once again => ?_⟩
  · rw [engine_seek, seek_sought going, target_place, sought]
    split
    · rfl
    · rfl
  · rw [engine_seek, seek_eq_seekWide seated]
  · have moves := file.afterAll_moves course
    exact ⟨moves.bytes, seated.moves moves, fun _ => seek_current_zero _⟩
  · have once := engine_seek_ok_iff.mp once
    have again := engine_seek_ok_iff.mp again
    have whole : (first + second).toInt = first.toInt + second.toInt := seated.delta_add once again
    refine ⟨whole, engine_seek_ok_iff.mpr ?_⟩
    rw [Whence.target, whole]
    exact seek_current_add once again

/-- Three bytes, with the cursor behind the first. -/
def threeBytes : File := { cluster := "c", path := "/a", bytes := [7, 8, 9], position := 1 }

/-- The furthest seeks fail, also where a sum would wrap in 64 bits; nearer ones add up. -/
theorem furthest_seeks_fail :
    let scene : Scene engine.World := ⟨{}, {}⟩
    threeBytes.Seated ∧ threeBytes.canceled = false ∧
      (engine.seek threeBytes (Whence.current Int64.maxValue).target scene).1 =
        .failed (.invalidArgument "Seek offset 9223372036854775808 outside of /a (length 3)") ∧
      (engine.seek threeBytes (Whence.start 18446744073709551615).target scene).2.1 = threeBytes ∧
      (engine.seek threeBytes (Whence.fromEnd Int64.minValue).target scene).2.1 = threeBytes ∧
      engine.seek threeBytes (Whence.current (2 + -3)).target scene =
        (.ok 0, { threeBytes with position := 0 }, scene) := by
  intro scene
  have seated : threeBytes.Seated := ⟨by decide, by decide⟩
  obtain ⟨exact, -, together⟩ := seeks_are_exact seated rfl
  have message : threeBytes.outside 9223372036854775808 =
    .invalidArgument "Seek offset 9223372036854775808 outside of /a (length 3)" := by decide +kernel
  refine ⟨seated, rfl, ?_, ?_, ?_, ?_⟩
  · rw [(exact (.current Int64.maxValue) scene).1, if_neg (by decide), ← message]
    rfl
  · rw [(exact (.start 18446744073709551615) scene).1, if_neg (by decide)]
  · rw [(exact (.fromEnd Int64.minValue) scene).1, if_neg (by decide)]
  · exact (together 2 (-3) scene 3 0 { threeBytes with position := 3 } { threeBytes with position := 0 } rfl rfl).2

end File
end Memory
end DfsClient
