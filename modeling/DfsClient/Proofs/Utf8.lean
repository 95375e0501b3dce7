import DfsClient.Boundary.Argument
import Mathlib.Data.List.TakeWhile
import Mathlib.Tactic.SplitIfs

/-! Texts as bytes. Bytes are read as a text exactly if they are its encoding, so reading loses
nothing and accepts nothing else; and a text ends at its first NUL where its bytes do. -/

namespace DfsClient.Text

def IsTail (b : UInt8) : Prop := 0x80 ≤ b.toNat ∧ b.toNat ≤ 0xBF

/-- The bytes of one character with its code point: six bits in each byte behind the first. The
second byte is bounded further where the code point would have fewer bytes or stand for no
character. -/
inductive Piece : List UInt8 → Nat → Prop
  | one {a : UInt8} (lead : a.toNat < 0x80) : Piece [a] a.toNat
  | two {a b : UInt8} (lead : 0xC2 ≤ a.toNat ∧ a.toNat < 0xE0) (second : IsTail b) :
    Piece [a, b] ((a.toNat - 0xC0) * 64 + (b.toNat - 0x80))
  | three {a b c : UInt8} (lead : 0xE0 ≤ a.toNat ∧ a.toNat < 0xF0) (second : IsTail b)
    (low : a.toNat = 0xE0 → 0xA0 ≤ b.toNat) (high : a.toNat = 0xED → b.toNat ≤ 0x9F) (third : IsTail c) :
    Piece [a, b, c] (((a.toNat - 0xE0) * 64 + (b.toNat - 0x80)) * 64 + (c.toNat - 0x80))
  | four {a b c d : UInt8} (lead : 0xF0 ≤ a.toNat ∧ a.toNat < 0xF5) (second : IsTail b)
    (low : a.toNat = 0xF0 → 0x90 ≤ b.toNat) (high : a.toNat = 0xF4 → b.toNat ≤ 0x8F) (third : IsTail c)
    (fourth : IsTail d) :
    Piece [a, b, c, d]
      ((((a.toNat - 0xF0) * 64 + (b.toNat - 0x80)) * 64 + (c.toNat - 0x80)) * 64 + (d.toNat - 0x80))

theorem isTail_ofNat (n : Nat) : IsTail (UInt8.ofNat (n % 64 + 0x80)) := by
  unfold IsTail
  rw [UInt8.toNat_ofNat_of_lt' (show n % 64 + 0x80 < 256 by omega)]
  omega

/-- The greatest bytes are in no piece. -/
theorem Piece.toNat_lt {bytes : List UInt8} {value : Nat} (piece : Piece bytes value) : ∀ b ∈ bytes, b.toNat < 0xF5 := by
  have tail {b : UInt8} (behind : IsTail b) : b.toNat < 0xF5 := Nat.lt_of_le_of_lt behind.2 (by decide)
  cases piece with
  | one lead => exact List.forall_mem_singleton.mpr (by omega)
  | two lead second =>
    simp only [List.forall_mem_cons]
    exact ⟨by omega, tail second, List.forall_mem_nil _⟩
  | three lead second low high third =>
    simp only [List.forall_mem_cons]
    exact ⟨by omega, tail second, tail third, List.forall_mem_nil _⟩
  | four lead second low high third fourth =>
    simp only [List.forall_mem_cons]
    exact ⟨lead.2, tail second, tail third, tail fourth, List.forall_mem_nil _⟩

/-- Every character is encoded as a piece. -/
theorem piece_encodeChar (c : Char) : Piece (String.utf8EncodeChar c) c.toNat := by
  have valid : c.toNat < 0xD800 ∨ 0xDFFF < c.toNat ∧ c.toNat < 0x110000 := c.valid
  have named : c.val.toNat = c.toNat := rfl
  unfold String.utf8EncodeChar
  rw [named]
  generalize c.toNat = v at valid
  dsimp only
  split_ifs with one two three
  · have small := UInt8.toNat_ofNat_of_lt' (show v < 256 by omega)
    have piece := Piece.one (a := UInt8.ofNat v) (by omega)
    rwa [small] at piece
  · have first := UInt8.toNat_ofNat_of_lt' (show v / 64 % 32 + 192 < 256 by omega)
    have second := UInt8.toNat_ofNat_of_lt' (show v % 64 + 128 < 256 by omega)
    have piece := Piece.two (a := UInt8.ofNat (v / 64 % 32 + 192)) (by omega) (isTail_ofNat v)
    rwa [first, second, show (v / 64 % 32 + 192 - 0xC0) * 64 + (v % 64 + 128 - 0x80) = v by omega] at piece
  · have first := UInt8.toNat_ofNat_of_lt' (show v / 4096 % 16 + 224 < 256 by omega)
    have second := UInt8.toNat_ofNat_of_lt' (show v / 64 % 64 + 128 < 256 by omega)
    have third := UInt8.toNat_ofNat_of_lt' (show v % 64 + 128 < 256 by omega)
    have piece := Piece.three (a := UInt8.ofNat (v / 4096 % 16 + 224)) (by omega) (isTail_ofNat (v / 64))
      (by omega) (by omega) (isTail_ofNat v)
    rwa [first, second, third,
      show ((v / 4096 % 16 + 224 - 0xE0) * 64 + (v / 64 % 64 + 128 - 0x80)) * 64 + (v % 64 + 128 - 0x80) = v
        by omega] at piece
  · have first := UInt8.toNat_ofNat_of_lt' (show v / 262144 % 8 + 240 < 256 by omega)
    have second := UInt8.toNat_ofNat_of_lt' (show v / 4096 % 64 + 128 < 256 by omega)
    have third := UInt8.toNat_ofNat_of_lt' (show v / 64 % 64 + 128 < 256 by omega)
    have fourth := UInt8.toNat_ofNat_of_lt' (show v % 64 + 128 < 256 by omega)
    have piece := Piece.four (a := UInt8.ofNat (v / 262144 % 8 + 240)) (by omega) (isTail_ofNat (v / 4096))
      (by omega) (by omega) (isTail_ofNat (v / 64)) (isTail_ofNat v)
    rwa [first, second, third, fourth,
      show (((v / 262144 % 8 + 240 - 0xF0) * 64 + (v / 4096 % 64 + 128 - 0x80)) * 64 +
        (v / 64 % 64 + 128 - 0x80)) * 64 + (v % 64 + 128 - 0x80) = v by omega] at piece

namespace Piece

variable {bytes : List UInt8} {value : Nat}

theorem ne_nil (piece : Piece bytes value) : bytes ≠ [] := by
  cases piece <;> exact List.cons_ne_nil _ _

/-- No other bytes are a piece with the code point of a character. -/
theorem encode (piece : Piece bytes value) : String.utf8EncodeChar (Char.ofNat value) = bytes := by
  have valued (valid : value.isValidChar) : (Char.ofNat value).val.toNat = value := by
    rw [Char.ofNat, dif_pos valid]
    rfl
  have byte (a : UInt8) {n : Nat} (same : n = a.toNat) : UInt8.ofNat n = a := by
    rw [same, UInt8.ofNat_toNat]
  unfold String.utf8EncodeChar
  cases piece with
  | @one a lead =>
    rw [valued (by unfold Nat.isValidChar; omega)]
    dsimp only
    rw [if_pos (by omega), byte a rfl]
  | @two a b lead second =>
    obtain ⟨least, most⟩ := second
    rw [valued (by unfold Nat.isValidChar; omega)]
    dsimp only
    rw [if_neg (by omega), if_pos (by omega), byte a (by omega), byte b (by omega)]
  | @three a b c lead second low high third =>
    obtain ⟨least, most⟩ := second
    obtain ⟨least', most'⟩ := third
    rw [valued (by unfold Nat.isValidChar; omega)]
    dsimp only
    rw [if_neg (by omega), if_neg (by omega), if_pos (by omega), byte a (by omega), byte b (by omega),
      byte c (by omega)]
  | @four a b c d lead second low high third fourth =>
    obtain ⟨least, most⟩ := second
    obtain ⟨least', most'⟩ := third
    obtain ⟨least'', most''⟩ := fourth
    rw [valued (by unfold Nat.isValidChar; omega)]
    dsimp only
    rw [if_neg (by omega), if_neg (by omega), if_neg (by omega), byte a (by omega), byte b (by omega),
      byte c (by omega), byte d (by omega)]

end Piece

/-- Whether a byte may come next in an unfinished character. -/
def Unfinished.Takes (u : Unfinished) (b : UInt8) : Prop := u.low.toNat ≤ b.toNat ∧ b.toNat ≤ u.high.toNat

theorem takes_tail {missing value : Nat} {b : UInt8} : Unfinished.Takes ⟨missing, 0x80, 0xBF, value⟩ b ↔ IsTail b :=
  Iff.rfl

theorem takes_three {missing value n : Nat} {b : UInt8} :
    Unfinished.Takes ⟨missing, if n = 0xE0 then 0xA0 else 0x80, if n = 0xED then 0x9F else 0xBF, value⟩ b ↔
      IsTail b ∧ (n = 0xE0 → 0xA0 ≤ b.toNat) ∧ (n = 0xED → b.toNat ≤ 0x9F) := by
  unfold Unfinished.Takes IsTail
  split_ifs <;> simp <;> omega

theorem takes_four {missing value n : Nat} {b : UInt8} :
    Unfinished.Takes ⟨missing, if n = 0xF0 then 0x90 else 0x80, if n = 0xF4 then 0x8F else 0xBF, value⟩ b ↔
      IsTail b ∧ (n = 0xF0 → 0x90 ≤ b.toNat) ∧ (n = 0xF4 → b.toNat ≤ 0x8F) := by
  unfold Unfinished.Takes IsTail
  split_ifs <;> simp <;> omega

theorem spelled_taken {u : Unfinished} {b : UInt8} (takes : u.Takes b) (rest : List UInt8) :
    spelled (some u) (b :: rest) =
      match u.missing with
      | 0 => some (Char.ofNat (u.value * 64 + (b.toNat - 0x80))) :: spelled none rest
      | missing + 1 => spelled (some ⟨missing, 0x80, 0xBF, u.value * 64 + (b.toNat - 0x80)⟩) rest := by
  rw [spelled]
  exact if_pos ⟨UInt8.le_iff_toNat_le.mpr takes.1, UInt8.le_iff_toNat_le.mpr takes.2⟩

theorem spelled_gap_or_taken (u : Unfinished) (bytes : List UInt8) :
    (∃ later, spelled (some u) bytes = none :: later) ∨ ∃ b rest, bytes = b :: rest ∧ u.Takes b := by
  cases bytes with
  | nil => exact .inl ⟨[], by rw [spelled]⟩
  | cons b rest =>
    by_cases takes : u.Takes b
    · exact .inr ⟨b, rest, rfl, takes⟩
    · left
      refine ⟨spelled.begin b rest, ?_⟩
      rw [spelled, if_neg]
      rw [UInt8.le_iff_toNat_le, UInt8.le_iff_toNat_le]
      exact takes

theorem spelled_unfinished {b : UInt8} {u : Unfinished} (opens : lead b = .unfinished u) (rest : List UInt8) :
    spelled none (b :: rest) = spelled (some u) rest := by
  rw [spelled, spelled.begin, opens]

theorem lead_two {b : UInt8} (first : 0xC2 ≤ b.toNat ∧ b.toNat < 0xE0) :
    lead b = .unfinished ⟨0, 0x80, 0xBF, b.toNat - 0xC0⟩ := by
  unfold lead
  dsimp only
  rw [if_neg (by omega), if_neg (by omega), if_pos (by omega)]

theorem lead_three {b : UInt8} (first : 0xE0 ≤ b.toNat ∧ b.toNat < 0xF0) :
    lead b = .unfinished
      ⟨1, if b.toNat = 0xE0 then 0xA0 else 0x80, if b.toNat = 0xED then 0x9F else 0xBF, b.toNat - 0xE0⟩ := by
  unfold lead
  dsimp only
  rw [if_neg (by omega), if_neg (by omega), if_neg (by omega), if_pos (by omega)]

theorem lead_four {b : UInt8} (first : 0xF0 ≤ b.toNat ∧ b.toNat < 0xF5) :
    lead b = .unfinished
      ⟨2, if b.toNat = 0xF0 then 0x90 else 0x80, if b.toNat = 0xF4 then 0x8F else 0xBF, b.toNat - 0xF0⟩ := by
  unfold lead
  dsimp only
  rw [if_neg (by omega), if_neg (by omega), if_neg (by omega), if_neg (by omega), if_pos (by omega)]

/-- A piece is read as its character. -/
theorem Piece.spelled {bytes : List UInt8} {value : Nat} (piece : Piece bytes value) (rest : List UInt8) :
    spelled none (bytes ++ rest) = some (Char.ofNat value) :: Text.spelled none rest := by
  cases piece with
  | @one a first =>
    simp only [List.cons_append, List.nil_append, Text.spelled, spelled.begin, lead]
    rw [if_pos first]
  | @two a b first second =>
    exact (spelled_unfinished (lead_two first) _).trans (spelled_taken (takes_tail.mpr second) rest)
  | @three a b c first second low high third =>
    exact (spelled_unfinished (lead_three first) _).trans
      ((spelled_taken (takes_three.mpr ⟨second, low, high⟩) _).trans (spelled_taken (takes_tail.mpr third) rest))
  | @four a b c d first second low high third fourth =>
    exact (spelled_unfinished (lead_four first) _).trans
      ((spelled_taken (takes_four.mpr ⟨second, low, high⟩) _).trans
        ((spelled_taken (takes_tail.mpr third) _).trans (spelled_taken (takes_tail.mpr fourth) rest)))

/-- Bytes that do not begin with a piece are found to be ill-formed. -/
theorem spelled_gap_or_piece (a : UInt8) (rest : List UInt8) :
    (∃ later, spelled none (a :: rest) = none :: later) ∨
      ∃ bytes value rest', a :: rest = bytes ++ rest' ∧ Piece bytes value := by
  by_cases one : a.toNat < 0x80
  · exact .inr ⟨[a], _, rest, rfl, .one one⟩
  by_cases stray : a.toNat < 0xC2 ∨ 0xF5 ≤ a.toNat
  · left
    refine ⟨spelled none rest, ?_⟩
    have strays : lead a = .stray := by
      unfold lead
      dsimp only
      split_ifs <;> first | rfl | omega
    rw [spelled, spelled.begin, strays]
  by_cases two : a.toNat < 0xE0
  · rw [spelled_unfinished (lead_two (by omega))]
    obtain gap | ⟨b, rest, rfl, second⟩ := spelled_gap_or_taken ⟨0, 0x80, 0xBF, a.toNat - 0xC0⟩ rest
    · exact .inl gap
    · exact .inr ⟨[a, b], _, rest, rfl, .two (by omega) (takes_tail.mp second)⟩
  by_cases three : a.toNat < 0xF0
  · rw [spelled_unfinished (lead_three (by omega))]
    obtain gap | ⟨b, rest, rfl, second⟩ := spelled_gap_or_taken _ rest
    · exact .inl gap
    rw [spelled_taken second]
    dsimp only
    obtain gap | ⟨c, rest, rfl, third⟩ := spelled_gap_or_taken _ rest
    · exact .inl gap
    · obtain ⟨second, low, high⟩ := takes_three.mp second
      exact .inr ⟨[a, b, c], _, rest, rfl, .three (by omega) second low high (takes_tail.mp third)⟩
  · rw [spelled_unfinished (lead_four (by omega))]
    obtain gap | ⟨b, rest, rfl, second⟩ := spelled_gap_or_taken _ rest
    · exact .inl gap
    rw [spelled_taken second]
    dsimp only
    obtain gap | ⟨c, rest, rfl, third⟩ := spelled_gap_or_taken _ rest
    · exact .inl gap
    rw [spelled_taken third]
    dsimp only
    obtain gap | ⟨d, rest, rfl, fourth⟩ := spelled_gap_or_taken _ rest
    · exact .inl gap
    · obtain ⟨second, low, high⟩ := takes_four.mp second
      exact .inr ⟨[a, b, c, d], _, rest, rfl,
        .four (by omega) second low high (takes_tail.mp third) (takes_tail.mp fourth)⟩

theorem spelled_encodeChar (c : Char) (rest : List UInt8) :
    spelled none (String.utf8EncodeChar c ++ rest) = some c :: spelled none rest := by
  have piece := (piece_encodeChar c).spelled rest
  rwa [Char.ofNat_toNat] at piece

theorem spelled_encoded (cs : List Char) : spelled none (cs.flatMap String.utf8EncodeChar) = cs.map some := by
  induction cs with
  | nil => simp [spelled]
  | cons c cs ih => rw [List.flatMap_cons, spelled_encodeChar, ih, List.map_cons]

/-- Bytes without a gap are the encoding of the characters that they spell. -/
theorem encoded_of_spelled {bytes : List UInt8} (whole : (spelled none bytes).all Option.isSome = true) :
    ∃ cs : List Char, bytes = cs.flatMap String.utf8EncodeChar := by
  cases bytes with
  | nil => exact ⟨[], rfl⟩
  | cons a rest =>
    obtain ⟨later, gap⟩ | ⟨bytes, value, rest', same, piece⟩ := spelled_gap_or_piece a rest
    · rw [gap] at whole
      cases whole
    · have shorter : rest'.length < (a :: rest).length := by
        have some := List.length_pos_iff.mpr piece.ne_nil
        rw [same, List.length_append]
        omega
      rw [same] at whole ⊢
      rw [piece.spelled, List.all_cons, Bool.and_eq_true] at whole
      obtain ⟨cs, encoded⟩ := encoded_of_spelled whole.2
      exact ⟨Char.ofNat value :: cs, by rw [List.flatMap_cons, piece.encode, ← encoded]⟩
termination_by bytes.length

theorem decode?_encode (text : String) : decode? (encode text) = some text := by
  unfold decode? encode
  rw [spelled_encoded]
  simp [List.filterMap_map]

/-- Reading accepts exactly the encodings. -/
theorem decode?_eq_some_iff {bytes : List UInt8} {text : String} :
    decode? bytes = some text ↔ encode text = bytes := by
  constructor
  · intro read
    have whole : (spelled none bytes).all Option.isSome = true := by
      by_contra broken
      rw [decode?, if_neg broken] at read
      cases read
    obtain ⟨cs, rfl⟩ := encoded_of_spelled whole
    have same := decode?_encode (String.ofList cs)
    rw [encode, String.toList_ofList, read] at same
    rw [Option.some.inj same, encode, String.toList_ofList]
  · rintro rfl
    exact decode?_encode text

theorem encode_injective {one other : String} (same : encode one = encode other) : one = other := by
  have read := decode?_encode one
  rw [same, decode?_encode] at read
  exact (Option.some.inj read).symm

/-- Only the code point zero has a byte that is zero. -/
theorem Piece.ne_zero {bytes : List UInt8} {value : Nat} (piece : Piece bytes value) (positive : 0 < value) :
    ∀ b ∈ bytes, b.toNat ≠ 0 := by
  intro b member
  cases piece with
  | one lead =>
    cases List.mem_singleton.mp member
    omega
  | two lead second =>
    simp only [List.mem_cons, List.not_mem_nil, or_false] at member
    rcases member with rfl | rfl
    · omega
    · have := second.1
      omega
  | three lead second low high third =>
    simp only [List.mem_cons, List.not_mem_nil, or_false] at member
    rcases member with rfl | rfl | rfl
    · omega
    · have := second.1
      omega
    · have := third.1
      omega
  | four lead second low high third fourth =>
    simp only [List.mem_cons, List.not_mem_nil, or_false] at member
    rcases member with rfl | rfl | rfl | rfl
    · omega
    · have := second.1
      omega
    · have := third.1
      omega
    · have := fourth.1
      omega

theorem encodeChar_ne_zero {c : Char} (other : c ≠ '\x00') : ∀ b ∈ String.utf8EncodeChar c, (b != 0) = true := by
  have positive : 0 < c.toNat := by
    apply Nat.pos_of_ne_zero
    intro zero
    apply other
    rw [← Char.ofNat_toNat c, zero]
  intro b member
  have apart := (piece_encodeChar c).ne_zero positive b member
  rw [bne_iff_ne]
  rintro rfl
  exact apart rfl

/-- The bytes of a text before its first NUL are those of its characters before the first one. -/
theorem encode_cutAtNul (text : String) : encode (cutAtNul text) = beforeNul (encode text) := by
  unfold encode cutAtNul beforeNul
  rw [String.toList_ofList]
  induction text.toList with
  | nil => rfl
  | cons c cs ih =>
    by_cases nul : c = '\x00'
    · subst nul
      rfl
    · have kept : (c != '\x00') = true := bne_iff_ne.mpr nul
      rw [List.flatMap_cons, List.takeWhile_append_of_pos (encodeChar_ne_zero nul), ← ih, List.takeWhile_cons, kept]
      rfl

end DfsClient.Text

namespace DfsClient.Boundary

/-- Bytes that a caller hands over for a text: up to the first NUL they are its encoding. -/
def Spells (given : Given) (text : String) : Prop :=
  ∃ bytes, given = some bytes ∧ Text.encode text = Text.beforeNul bytes

theorem requiredText_eq_ok_iff {name text : String} {given : Given} :
    requiredText name given = .ok text ↔ Spells given text := by
  cases given with
  | none =>
    constructor
    · exact nofun
    · rintro ⟨bytes, absent, -⟩
      cases absent
  | some bytes =>
    have spells : Spells (some bytes) text ↔ Text.decode? (Text.beforeNul bytes) = some text := by
      rw [Text.decode?_eq_some_iff]
      exact ⟨fun ⟨_, same, encoded⟩ => Option.some.inj same ▸ encoded, fun encoded => ⟨bytes, rfl, encoded⟩⟩
    rw [spells]
    cases decoded : Text.decode? (Text.beforeNul bytes) with
    | none => simp [requiredText, decoded]
    | some read => simp [requiredText, decoded]

/-- The text that a caller hands over, up to its first NUL. -/
def textOf? (given : Given) : Option String := given.bind fun bytes => Text.decode? (Text.beforeNul bytes)

/-- The same where a null pointer stands for no text. -/
def optionalOf? : Given → Option (Option String)
  | none => some none
  | some bytes => (Text.decode? (Text.beforeNul bytes)).map some

theorem textOf?_eq_some_iff {given : Given} {text : String} : textOf? given = some text ↔ Spells given text := by
  unfold textOf?
  rw [Option.bind_eq_some_iff]
  simp only [Text.decode?_eq_some_iff, Spells]

theorem textOf?_of_encode {bytes : List UInt8} {text : String} (encodes : Text.encode text = Text.beforeNul bytes) :
    textOf? (some bytes) = some text :=
  textOf?_eq_some_iff.mpr ⟨bytes, rfl, encodes⟩

/-- The greatest bytes are in no text. -/
theorem textOf?_of_mem {bytes : List UInt8} {b : UInt8} (member : b ∈ Text.beforeNul bytes) (great : 0xF5 ≤ b.toNat) :
    textOf? (some bytes) = none := by
  cases read : textOf? (some bytes) with
  | none => rfl
  | some text =>
    obtain ⟨_, same, encoded⟩ := textOf?_eq_some_iff.mp read
    cases same
    rw [← encoded] at member
    obtain ⟨c, -, among⟩ := List.mem_flatMap.mp member
    have small := (Text.piece_encodeChar c).toNat_lt b among
    omega

theorem requiredText_of_textOf? {given : Given} {text : String} (read : textOf? given = some text) (name : String) :
    requiredText name given = .ok text :=
  requiredText_eq_ok_iff.mpr (textOf?_eq_some_iff.mp read)

theorem textOf?_of_requiredText {given : Given} {name text : String} (read : requiredText name given = .ok text) :
    textOf? given = some text :=
  textOf?_eq_some_iff.mpr (requiredText_eq_ok_iff.mp read)

theorem requiredText_of_textOf?_none {given : Given} (unread : textOf? given = none) (name : String) :
    requiredText name given = .error (if given.isNone then .nullArgument name else .invalidText name) := by
  cases given with
  | none => rfl
  | some bytes =>
    have undecoded : Text.decode? (Text.beforeNul bytes) = none := unread
    simp [requiredText, undecoded]

theorem optionalText_eq (name : String) (given : Given) :
    optionalText name given = match optionalOf? given with
      | some text => .ok text
      | none => .error (.invalidText name) := by
  cases given with
  | none => rfl
  | some bytes =>
    unfold optionalText optionalOf?
    dsimp only
    cases Text.decode? (Text.beforeNul bytes) <;> rfl

theorem optionalText_of_optionalOf? {given : Given} {text : Option String} (read : optionalOf? given = some text)
    (name : String) : optionalText name given = .ok text := by
  rw [optionalText_eq, read]

theorem optionalOf?_of_textOf? {given : Given} {text : String} (read : textOf? given = some text) :
    optionalOf? given = some (some text) := by
  cases given with
  | none => cases read
  | some bytes => exact congrArg (Option.map some) read

theorem optionalOf?_of_mem {bytes : List UInt8} {b : UInt8} (member : b ∈ Text.beforeNul bytes)
    (great : 0xF5 ≤ b.toNat) : optionalOf? (some bytes) = none :=
  congrArg (Option.map some) (textOf?_of_mem member great)

theorem textOf?_of_optionalOf? {given : Given} {text : Option String} (read : optionalOf? given = some text) :
    textOf? given = text := by
  cases given with
  | none => exact Option.some.inj read
  | some bytes =>
    obtain ⟨text, same, rfl⟩ := Option.map_eq_some_iff.mp read
    exact same

theorem Spells.unique {given : Given} {one other : String} (first : Spells given one) (second : Spells given other) :
    one = other := by
  obtain ⟨bytes, rfl, same⟩ := first
  obtain ⟨bytes', given, same'⟩ := second
  cases given
  exact Text.encode_injective (same.trans same'.symm)

/-- There is no NUL in what a caller hands over. -/
theorem Spells.cutAtNul {given : Given} {text : String} (spells : Spells given text) :
    Text.cutAtNul text = text := by
  obtain ⟨bytes, -, same⟩ := spells
  apply Text.encode_injective
  rw [Text.encode_cutAtNul, same, Text.beforeNul, Text.beforeNul, List.takeWhile_idem]

end DfsClient.Boundary
