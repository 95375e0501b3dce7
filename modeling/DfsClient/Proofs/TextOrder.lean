import DfsClient.Proofs.Utf8
import Mathlib.Data.String.Basic

/-! The order of texts. Texts are ordered by their first character that differs, and that is the order of
their bytes: of two characters the one with the larger code point has the larger bytes. -/

namespace DfsClient.Text

/-- A piece of a larger code point is larger from its first byte that differs on, whatever follows. -/
theorem Piece.lt {bytes bytes' : List UInt8} {value value' : Nat} (piece : Piece bytes value)
    (piece' : Piece bytes' value') (before : value < value') (rest rest' : List UInt8) :
    bytes ++ rest < bytes' ++ rest' := by
  -- Pieces of different lengths differ in their leads, those of one length in the bits of some byte.
  cases piece <;> cases piece' <;>
    simp only [IsTail, List.cons_append, List.nil_append, List.cons_lt_cons_iff, UInt8.lt_iff_toNat_lt,
      ← UInt8.toNat_inj] at * <;>
    omega

theorem encodeChar_lt {c d : Char} (before : c < d) (rest rest' : List UInt8) :
    String.utf8EncodeChar c ++ rest < String.utf8EncodeChar d ++ rest' :=
  (piece_encodeChar c).lt (piece_encodeChar d) (UInt32.lt_iff_toNat_lt.mp before) rest rest'

theorem encodeChars_lt {cs ds : List Char} (before : cs < ds) :
    cs.flatMap String.utf8EncodeChar < ds.flatMap String.utf8EncodeChar := by
  induction before with
  | @nil d ds =>
    obtain ⟨byte, bytes, same⟩ := List.exists_cons_of_ne_nil (piece_encodeChar d).ne_nil
    rw [List.flatMap_nil, List.flatMap_cons, same]
    exact .nil
  | cons _ ih =>
    rw [List.flatMap_cons, List.flatMap_cons]
    exact List.append_left_lt ih
  | rel lower =>
    rw [List.flatMap_cons, List.flatMap_cons]
    exact encodeChar_lt lower _ _

theorem encode_lt_encode {one other : String} : encode one < encode other ↔ one < other := by
  constructor
  · intro before
    rcases lt_trichotomy one other with lower | same | higher
    · exact lower
    · exact absurd (same ▸ before) (List.lt_irrefl _)
    · exact absurd (encodeChars_lt (String.lt_iff.mp higher)) (List.lt_asymm before)
  · intro before
    exact encodeChars_lt (String.lt_iff.mp before)

end DfsClient.Text
