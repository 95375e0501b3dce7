import DfsClient.Formats.Standard
import DfsClient.Proofs.CallOutcome
import DfsClient.Proofs.Numerals
import DfsClient.Proofs.Utf8
import Mathlib.Data.Nat.Digits.Defs

/-! Integer lookups. A value is a decimal integer if, blanks around it aside, it consists of digits
behind at most one sign. A lookup gives the integer if it has 32 bits and says that it is out of
range if it has 64. An integer with more bits is taken for no integer, as is everything else. -/

namespace DfsClient
open Boundary

namespace Text

/-- The number that digits stand for, of which the last one counts ones. -/
def decimal (digits : List Char) : Nat := Nat.ofDigits 10 (digits.reverse.map fun d => d.toNat - '0'.toNat)

def AreDigits (cs : List Char) : Prop := cs ≠ [] ∧ ∀ c ∈ cs, isDigit c = true

/-- Decimal integers with the numbers that they denote. -/
inductive Numeral : List Char → Int → Prop
  | unsigned {digits : List Char} (valid : AreDigits digits) : Numeral digits (decimal digits)
  | plus {digits : List Char} (valid : AreDigits digits) : Numeral ('+' :: digits) (decimal digits)
  | minus {digits : List Char} (valid : AreDigits digits) : Numeral ('-' :: digits) (-(decimal digits : Int))

/-- A text that is a decimal integer, blanks around it aside. -/
def Denotes (text : String) (n : Int) : Prop := Numeral (trim text).toList n

def Fits32 (n : Int) : Prop := -2147483648 ≤ n ∧ n ≤ 2147483647

def Fits64 (n : Int) : Prop := -9223372036854775808 ≤ n ∧ n ≤ 9223372036854775807

instance (n : Int) : Decidable (Fits32 n) := inferInstanceAs (Decidable (_ ∧ _))

instance (n : Int) : Decidable (Fits64 n) := inferInstanceAs (Decidable (_ ∧ _))

theorem ofDigitChars_eq_decimal (cs : List Char) : Nat.ofDigitChars 10 cs 0 = decimal cs := by
  rw [decimal, Nat.ofDigits_eq_foldr, Nat.ofDigitChars_eq_foldl, List.foldr_map, List.foldr_reverse]
  simp only [Nat.cast_id, Nat.add_comm]

theorem natural?_eq_some_iff {cs : List Char} {n : Nat} : natural? cs = some n ↔ AreDigits cs ∧ decimal cs = n := by
  have valid : (cs ≠ [] ∧ cs.all isDigit = true) ↔ AreDigits cs := and_congr_right' List.all_eq_true
  unfold natural?
  rw [ofDigitChars_eq_decimal]
  split
  next digits => simp [valid.mp digits]
  next others => simp [mt valid.mpr others]

theorem natural?_digits {cs : List Char} (valid : AreDigits cs) : natural? cs = some (decimal cs) :=
  natural?_eq_some_iff.mpr ⟨valid, rfl⟩

/-- The reader takes exactly the decimal integers. -/
theorem integer?_eq_some_iff {cs : List Char} {n : Int} : integer? cs = some n ↔ Numeral cs n := by
  constructor
  · intro read
    have shape := read
    unfold integer? at shape
    split at shape
    next digits =>
      obtain ⟨value, valued, rfl⟩ := Option.map_eq_some_iff.mp shape
      obtain ⟨valid, rfl⟩ := natural?_eq_some_iff.mp valued
      exact .plus valid
    next digits =>
      rw [integer?_minus] at read
      obtain ⟨value, valued, rfl⟩ := Option.map_eq_some_iff.mp read
      obtain ⟨valid, rfl⟩ := natural?_eq_some_iff.mp valued
      exact .minus valid
    next =>
      obtain ⟨value, valued, rfl⟩ := Option.map_eq_some_iff.mp shape
      obtain ⟨valid, rfl⟩ := natural?_eq_some_iff.mp valued
      exact .unsigned valid
  · intro numeral
    cases numeral with
    | unsigned valid =>
      rw [integer?_unsigned valid.2, natural?_digits valid]
      rfl
    | plus valid =>
      rw [integer?_plus, natural?_digits valid]
      rfl
    | minus valid =>
      rw [integer?_minus, natural?_digits valid]
      rfl

theorem Denotes.unique {text : String} {n m : Int} (one : Denotes text n) (other : Denotes text m) : n = m := by
  have same := integer?_eq_some_iff.mpr one
  rw [integer?_eq_some_iff.mpr other] at same
  exact (Option.some.inj same).symm

theorem denotes_toString (n : Int) : Denotes (toString n) n := by
  unfold Denotes
  rw [trim_toString_int]
  exact integer?_eq_some_iff.mp (integer?_toString n)

theorem fits32_toInt (n : Int32) : Fits32 n.toInt := ⟨n.le_toInt, Int.lt_add_one_iff.mp n.toInt_lt⟩

theorem fits64_toInt (n : Int64) : Fits64 n.toInt := ⟨n.le_toInt, Int.lt_add_one_iff.mp n.toInt_lt⟩

theorem toInt_ofInt_of_fits32 {n : Int} (fits : Fits32 n) : (Int32.ofInt n).toInt = n :=
  Int32.toInt_ofInt_of_le fits.1 (Int.lt_add_one_iff.mpr fits.2)

theorem toInt_ofInt_of_fits64 {n : Int} (fits : Fits64 n) : (Int64.ofInt n).toInt = n :=
  Int64.toInt_ofInt_of_le fits.1 (Int.lt_add_one_iff.mpr fits.2)

theorem Fits32.wide {n : Int} (fits : Fits32 n) : Fits64 n := by
  unfold Fits32 at fits
  unfold Fits64
  omega

theorem int64?_eq (n : Int) : int64? n = if Fits64 n then some (Int64.ofInt n) else none := by
  split
  next fits => exact congrArg (Option.map Int64.ofInt) (if_pos fits)
  next wider => exact congrArg (Option.map Int64.ofInt) (if_neg wider)

theorem int32?_eq (n : Int) : int32? n = if Fits32 n then some (Int32.ofInt n) else none := by
  split
  next fits => exact congrArg (Option.map Int32.ofInt) (if_pos fits)
  next wider => exact congrArg (Option.map Int32.ofInt) (if_neg wider)

end Text

namespace Snapshot
open Text

theorem integerOf?_eq_some_iff {text : String} {n : Int64} : integerOf? text = some n ↔ Denotes text n.toInt := by
  unfold integerOf?
  rw [Option.bind_eq_some_iff]
  constructor
  · rintro ⟨value, read, narrowed⟩
    rw [int64?_eq] at narrowed
    split at narrowed
    next fits =>
      cases narrowed
      rw [toInt_ofInt_of_fits64 fits]
      exact integer?_eq_some_iff.mp read
    next => cases narrowed
  · intro denotes
    refine ⟨n.toInt, integer?_eq_some_iff.mpr denotes, ?_⟩
    rw [int64?_eq, if_pos (fits64_toInt n), Int64.ofInt_toInt]

theorem not_fits64_of_integerOf? {text : String} (unread : integerOf? text = none) {n : Int} (denotes : Denotes text n) :
    ¬Fits64 n := by
  intro fits
  rw [← toInt_ofInt_of_fits64 fits] at denotes
  cases unread.symm.trans (integerOf?_eq_some_iff.mpr denotes)

end Snapshot

namespace Boundary
open Text

theorem Builder.integer_eq (builder : Builder) (key : String) :
    builder.integer key =
      match builder.snapshot.getInteger? key with
      | none => .error .missingValue
      | some n => if Fits32 n.toInt then .ok (Int32.ofInt n.toInt) else .error (.outOfRange key) := by
  unfold Builder.integer
  cases builder.snapshot.getInteger? key with
  | none => rfl
  | some n =>
    dsimp only
    rw [int32?_eq]
    by_cases fits : Fits32 n.toInt
    · rw [if_pos fits, if_pos fits]
    · rw [if_neg fits, if_neg fits]

/-- What a value comes to as an integer for a caller who has 32 bits for it. -/
inductive ReadsInteger (key : String) (value : Option String) : Except Fault Int32 → Prop
  | fits {text : String} {n : Int32} (held : value = some text) (denotes : Denotes text n.toInt) :
    ReadsInteger key value (.ok n)
  | large {text : String} {n : Int} (held : value = some text) (denotes : Denotes text n) (wide : Fits64 n)
      (narrow : ¬Fits32 n) :
    ReadsInteger key value (.error (.outOfRange key))
  | nothing (others : ∀ text n, value = some text → Denotes text n → ¬Fits64 n) :
    ReadsInteger key value (.error .missingValue)

theorem Builder.reads_integer (builder : Builder) (key : String) :
    ReadsInteger key (builder.snapshot.get? key) (builder.integer key) := by
  rw [Builder.integer_eq, Snapshot.getInteger?]
  cases builder.snapshot.get? key with
  | none => exact .nothing nofun
  | some text =>
    rw [Option.bind_some]
    cases read : Snapshot.integerOf? text with
    | none =>
      refine .nothing fun other n same => ?_
      cases same
      exact Snapshot.not_fits64_of_integerOf? read
    | some n =>
      have denotes := Snapshot.integerOf?_eq_some_iff.mp read
      dsimp only
      split
      next fits => exact .fits rfl ((toInt_ofInt_of_fits32 fits).symm ▸ denotes)
      next narrow => exact .large rfl denotes (fits64_toInt n) narrow

end Boundary

namespace Client
open Text

variable {engine : Engine}

theorem call_lookUpInteger [Formats] (client : Client engine) (thread : Nat) {name : String} {builder : Builder}
    (there : client.builders.get? name = some builder) {given : Given} {key : String} (spells : Spells given key) :
    client.call thread (.lookUpInteger (some name) given true) =
      (.ofInteger (builder.integer key), client.reportFault thread (client.caller thread) (builder.integer key)) := by
  have held : client.builders.find? (some name) = some builder := there
  have read : lookUpInteger (some builder) given true = builder.integer key := by
    unfold lookUpInteger lookupArguments
    rw [requiredText_eq_ok_iff.mpr spells]
    rfl
  simp only [Client.call, held, read]

/-- A lookup gives an integer of 32 bits, and changes nothing. It answers 1 for one that has up to 64 bits, and -1
where there is no value, where it is no decimal integer and where it is one of more bits. It then leaves nothing but
an error that says so. -/
theorem integer_lookup_answers [Formats] (client : Client engine) (thread : Nat) {name : String} {builder : Builder}
    (there : client.builders.get? name = some builder) {given : Given} {key : String} (spells : Spells given key) :
    let (answer, after) := client.call thread (.lookUpInteger (some name) given true)
    let denoted (n : Int) := ∃ text, builder.snapshot.get? key = some text ∧ Denotes text n
    (∀ n : Int32, answer = .integer 0 (some n) ↔ denoted n.toInt) ∧
    (answer = .integer 1 none ↔ ∃ n, denoted n ∧ Fits64 n ∧ ¬Fits32 n) ∧
    (answer = .integer (-1) none ↔ ∀ n, denoted n → ¬Fits64 n) ∧
    ((∃ n, answer = .integer 0 (some n) ∧ after = client) ∨
      (answer = .integer 1 none ∧
        after = client.reporting thread (22, "Value of \x60" ++ key ++ "\x60 does not fit in an int")) ∨
      (answer = .integer (-1) none ∧ after = client.reporting thread (22, "Could not get Builder value"))) := by
  rw [call_lookUpInteger client thread there spells]
  have reads := builder.reads_integer key
  generalize builder.integer key = result at reads
  generalize builder.snapshot.get? key = value at reads
  have only {text : String} {n m : Int} (held : value = some text) (denotes : Denotes text n)
      (denoted : ∃ text, value = some text ∧ Denotes text m) : m = n := by
    obtain ⟨other, held', denotes'⟩ := denoted
    cases Option.some.inj (held.symm.trans held')
    exact denotes'.unique denotes
  cases reads with
  | @fits text n held denotes =>
    refine ⟨fun m => ?_, ?_, ?_, .inl ⟨n, rfl, reportFault_ok client thread n⟩⟩
    · constructor
      · rintro ⟨⟩
        exact ⟨text, held, denotes⟩
      · intro denoted
        rw [Int32.toInt_inj.mp (only held denotes denoted)]
        rfl
    · refine ⟨nofun, fun ⟨m, denoted, _, narrow⟩ => ?_⟩
      exact absurd (only held denotes denoted ▸ fits32_toInt n) narrow
    · refine ⟨nofun, fun others => ?_⟩
      exact absurd (fits32_toInt n).wide (others _ ⟨text, held, denotes⟩)
  | @large text n held denotes wide narrow =>
    refine ⟨fun m => ⟨nofun, fun denoted => ?_⟩, ?_, ?_, .inr (.inl ⟨rfl, reportFault_error ..⟩)⟩
    · exact absurd (only held denotes denoted ▸ fits32_toInt m) narrow
    · exact ⟨fun _ => ⟨n, ⟨text, held, denotes⟩, wide, narrow⟩, fun _ => rfl⟩
    · exact ⟨nofun, fun others => absurd wide (others n ⟨text, held, denotes⟩)⟩
  | nothing others =>
    refine ⟨fun m => ⟨nofun, fun ⟨text, held, denotes⟩ => ?_⟩, ?_, ?_, .inr (.inr ⟨rfl, reportFault_error ..⟩)⟩
    · exact absurd (fits32_toInt m).wide (others text _ held denotes)
    · exact ⟨nofun, fun ⟨n, ⟨text, held, denotes⟩, wide, _⟩ => absurd wide (others text n held denotes)⟩
    · exact ⟨fun _ n ⟨text, held, denotes⟩ => others text n held denotes, fun _ => rfl⟩

/-- A client with one builder that holds one value. -/
def holding (value : String) : Client Memory.engine where
  scene := ⟨{}, {}⟩
  tree := ⟨fun _ => .missing⟩
  builders := Table.set {} "b" { snapshot := Snapshot.empty.withValue "a" value }

open scoped Formats.Standard

theorem signed_numeral_is_found :
    ((holding " +0042 ").call 0 (.lookUpInteger (some "b") (some [97]) true)).1 = .integer 0 (some 42) := by
  let builder : Builder := { snapshot := Snapshot.empty.withValue "a" " +0042 " }
  have there : (holding " +0042 ").builders.get? "b" = some builder := rfl
  have held : builder.snapshot.get? "a" = some " +0042 " := by decide +kernel
  have denotes : Denotes " +0042 " 42 := integer?_eq_some_iff.mp (by decide +kernel)
  have spells : Spells (some [97]) "a" := ⟨[97], rfl, by decide +kernel⟩
  exact ((integer_lookup_answers (holding " +0042 ") 0 there spells).1 42).mpr ⟨_, held, denotes⟩

/-- An integer of more than 64 bits is out of range, but the answer is the one for no value. -/
theorem wide_numeral_passes_for_missing :
    let wide := "9223372036854775808"
    Denotes wide 9223372036854775808 ∧ ¬Fits32 9223372036854775808 ∧
      (holding wide).builders.get? "b" = some { snapshot := Snapshot.empty.withValue "a" wide } ∧
      ((holding wide).call 0 (.lookUpInteger (some "b") (some [97]) true)).1 = .integer (-1) none := by
  intro wide
  let builder : Builder := { snapshot := Snapshot.empty.withValue "a" wide }
  have there : (holding wide).builders.get? "b" = some builder := rfl
  have spells : Spells (some [97]) "a" := ⟨[97], rfl, by decide +kernel⟩
  have missing : builder.integer "a" = .error .missingValue := by decide +kernel
  refine ⟨integer?_eq_some_iff.mp (by decide +kernel), by decide, there, ?_⟩
  rw [call_lookUpInteger _ 0 there spells, missing]
  rfl

end Client
end DfsClient
