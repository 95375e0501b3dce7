import DfsClient.Engine.Memory.Session
import Mathlib.Data.List.Basic

/-! Numbers that are written down and read back. A decimal text has no blanks, and no sign but that
of a negative number, and reads as that number. -/

namespace DfsClient.Text

theorem trimBy_self {drops : Char → Bool} {cs : List Char} (kept : ∀ c ∈ cs, drops c = false) :
    trimBy drops cs = cs := by
  have whole {cs : List Char} (kept : ∀ c ∈ cs, drops c = false) : cs.dropWhile drops = cs := by
    cases cs with
    | nil => rfl
    | cons c cs => exact List.dropWhile_cons_of_neg (by simp [kept c List.mem_cons_self])
  unfold trimBy
  rw [whole kept, whole fun c member => kept c (List.mem_reverse.mp member), List.reverse_reverse]

theorem isDigit_toDigits {n : Nat} {c : Char} (member : c ∈ Nat.toDigits 10 n) : isDigit c = true := by
  have digit := Nat.isDigit_of_mem_toDigits (by decide) (by decide) member
  simp only [Char.isDigit, Bool.and_eq_true, decide_eq_true_eq] at digit
  simp only [isDigit, Bool.and_eq_true, decide_eq_true_eq]
  exact digit

theorem not_isBlank_digit {c : Char} (digit : isDigit c = true) : isBlank c = false := by
  simp only [isDigit, Bool.and_eq_true, decide_eq_true_eq] at digit
  obtain ⟨low, high⟩ := digit
  have low : 48 ≤ c.toNat := low
  have high : c.toNat ≤ 57 := high
  simp only [isBlank, blankRanges, List.any_cons, List.any_nil, Bool.or_false]
  simp only [Bool.or_eq_false_iff, Bool.and_eq_false_iff, decide_eq_false_iff_not]
  omega

theorem natural?_toDigits (n : Nat) : natural? (Nat.toDigits 10 n) = some n := by
  have digits : (Nat.toDigits 10 n).all isDigit = true := by
    rw [List.all_eq_true]
    intro c member
    exact isDigit_toDigits member
  unfold natural?
  rw [if_pos ⟨Nat.toDigits_ne_nil, digits⟩, Nat.ofDigitChars_toDigits (by decide) (by decide)]

theorem trim_self {text : String} (solid : ∀ c ∈ text.toList, isBlank c = false) : trim text = text := by
  unfold trim
  rw [trimBy_self solid, String.ofList_toList]

theorem trim_toString (n : Nat) : trim (toString n) = toString n := by
  have text : (toString n).toList = Nat.toDigits 10 n := Nat.toList_repr
  apply trim_self
  intro c member
  exact not_isBlank_digit (isDigit_toDigits (text ▸ member))

theorem unsigned?_toString (n : Nat) : unsigned? (toString n).toList = some n := by
  have text : (toString n).toList = Nat.toDigits 10 n := Nat.toList_repr
  have read := natural?_toDigits n
  rw [text]
  unfold unsigned?
  split
  next rest signed =>
    -- A sign is no digit.
    have digit := isDigit_toDigits (signed ▸ List.mem_cons_self : '+' ∈ Nat.toDigits 10 n)
    cases digit
  next => exact read

/-- Only a negative number is written with a sign. -/
theorem toList_toString (n : Int) :
    (toString n).toList = (if n < 0 then ['-'] else []) ++ Nat.toDigits 10 n.natAbs := by
  cases n with
  | ofNat n => exact Nat.toList_repr
  | negSucc n =>
    have text : (toString (Int.negSucc n)).toList = ("-" ++ (n + 1).repr).toList := rfl
    rw [text, String.toList_append, Nat.toList_repr, if_pos (Int.negSucc_lt_zero n)]
    rfl

theorem trim_toString_int (n : Int) : trim (toString n) = toString n := by
  apply trim_self
  intro c member
  rw [toList_toString, List.mem_append] at member
  obtain sign | digit := member
  · split at sign
    · rw [List.mem_singleton.mp sign]
      rfl
    · cases sign
  · exact not_isBlank_digit (isDigit_toDigits digit)

theorem integer?_plus (cs : List Char) : integer? ('+' :: cs) = (natural? cs).map Int.ofNat := rfl

theorem integer?_minus (cs : List Char) :
    integer? ('-' :: cs) = (natural? cs).map fun n : Nat => -(n : Int) := by
  rw [integer?]
  cases natural? cs <;> rfl

theorem integer?_unsigned {cs : List Char} (digits : ∀ c ∈ cs, isDigit c = true) :
    integer? cs = (natural? cs).map Int.ofNat := by
  unfold integer?
  split
  -- A sign is no digit.
  next => cases digits _ List.mem_cons_self
  next => cases digits _ List.mem_cons_self
  next => rfl

theorem integer?_toString (n : Int) : integer? (toString n).toList = some n := by
  rw [toList_toString]
  split
  next negative =>
    rw [List.singleton_append, integer?_minus, natural?_toDigits, Option.map_some]
    congr 1
    omega
  next =>
    rw [List.nil_append, integer?_unsigned fun c => isDigit_toDigits, natural?_toDigits, Option.map_some]
    congr 1
    change (n.natAbs : Int) = n
    omega

end DfsClient.Text

namespace DfsClient.Memory

/-- A port that is written down is the port that is read. -/
theorem port?_toString (port : UInt16) : port? (toString port.toNat) = some port := by
  have fits := port.toNat_lt
  unfold port?
  rw [Text.trim_toString, Text.unsigned?_toString]
  dsimp only
  rw [if_pos (by omega), UInt16.ofNat_toNat]

end DfsClient.Memory
