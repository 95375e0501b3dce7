import DfsClient.Text.Utf8
import DfsClient.Toml.Document

/-! Plain texts in documents. Characters that need no escape are read as they stand, in
quotes inside brackets too. -/

namespace DfsClient.Text

theorem spelled_ascii (bytes : List UInt8) (ascii : ∀ byte ∈ bytes, byte.toNat < 128) :
    spelled none bytes = bytes.map fun byte => some (Char.ofNat byte.toNat) := by
  induction bytes with
  | nil => simp [spelled]
  | cons byte bytes ih =>
    have first := ascii byte List.mem_cons_self
    have lead : lead byte = .complete (Char.ofNat byte.toNat) := by
      simp only [Text.lead, first, ↓reduceIte]
    rw [spelled, spelled.begin, lead, List.map_cons]
    simp only
    rw [ih fun other member => ascii other (List.mem_cons_of_mem _ member)]

theorem decode?_ascii (bytes : List UInt8) (ascii : ∀ byte ∈ bytes, byte.toNat < 128) :
    decode? bytes = some (String.ofList (bytes.map fun byte => Char.ofNat byte.toNat)) := by
  unfold decode?
  rw [spelled_ascii bytes ascii]
  simp [List.filterMap_map]

end DfsClient.Text

namespace DfsClient.Toml

theorem basicText_plain (cs rest : List Char) (plain : ∀ c ∈ cs, isBasicChar c = true) :
    basicText .between (cs ++ '"' :: rest) = some (cs, rest) := by
  induction cs with
  | nil => rfl
  | cons c cs ih =>
    have first := plain c List.mem_cons_self
    have other : c ≠ '"' ∧ c ≠ '\\' := by
      simp only [isBasicChar, Bool.and_eq_true, bne_iff_ne, ne_eq] at first
      exact ⟨first.1.2, first.2⟩
    rw [List.cons_append, basicText, if_neg other.1, if_neg other.2, if_pos first,
      ih fun c member => plain c (List.mem_cons_of_mem _ member)]
    rfl

theorem quotedText?_plain {cs : List Char} (nonempty : cs ≠ []) (rest : List Char)
    (plain : ∀ c ∈ cs, isBasicChar c = true) :
    quotedText? ('"' :: (cs ++ '"' :: rest)) = some (cs, rest) := by
  obtain ⟨c, cs, rfl⟩ := List.exists_cons_of_ne_nil nonempty
  have first := plain c List.mem_cons_self
  have other : c ≠ '"' := by
    rintro rfl
    cases first
  unfold quotedText?
  split
  next same => simp at same; exact absurd same.1 other
  next same => simp at same
  next => exact basicText_plain _ rest plain

theorem value?_quoted {cs : List Char} (nonempty : cs ≠ []) (rest : List Char)
    (plain : ∀ c ∈ cs, isBasicChar c = true) (size room : Nat) :
    value? (size + 1) room ('"' :: (cs ++ '"' :: rest)) = some (.string (String.ofList cs), rest) := by
  have quoted := quotedText?_plain nonempty rest plain
  cases room <;> simp only [value?, true_or, ↓reduceIte, quoted, Option.map_some]

theorem document?_pair {value : Value} {cs : List Char}
    (read : ∀ size, value? (size + 1) 79 cs = some (value, []))
    (dated : value.dated? = some value) (start : skipBlanks cs = cs) :
    document? (String.ofList ('a' :: '=' :: cs)) = some [("a", value)] := by
  unfold document?
  rw [String.toList_ofList]
  have key : key? ('a' :: '=' :: cs) = some (["a"], '=' :: cs) := rfl
  have pair (size : Nat) :
      pair? (value? (size + 1) 79) ('a' :: '=' :: cs) = some ((["a"], value), []) := by
    unfold pair?
    rw [key]
    change (value? (size + 1) 79 (skipBlanks cs)).bind _ = _
    rw [start, read]
    rfl
  have line (size : Nat) : statement? (size + 1) .start ('a' :: '=' :: cs) =
      some ({ current := .mk .header [("a", .value value)] }, []) := by
    change (pair? (value? (size + 1) 79) ('a' :: '=' :: cs)).bind _ = _
    rw [pair]
    rfl
  have lines : statements? (cs.length + 3) (cs.length + 3) .start ('a' :: '=' :: cs) =
      some { current := .mk .header [("a", .value value)] } := by
    have blanks : skipBlanks ('a' :: '=' :: cs) = 'a' :: '=' :: cs := rfl
    rw [statements?, blanks]
    simp only [line]
    rfl
  change (statements? (cs.length + 3) (cs.length + 3) .start ('a' :: '=' :: cs)).bind _ = _
  rw [lines]
  change datedEntries? [("a", value)] = _
  simp only [datedEntries?, dated]
  rfl

end DfsClient.Toml
