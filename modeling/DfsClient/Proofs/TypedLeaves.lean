import DfsClient.Formats.Standard
import DfsClient.Proofs.IntegerLookup
import DfsClient.Proofs.Leaves

/-! Values of a document that are read back. An integer, a boolean and a string that a document has
for a key come out of its snapshot as they are in the document, unless the document has something
else for the key further down or the writer panics over it. -/

namespace DfsClient
open Boundary Text

namespace Snapshot

theorem integerOf?_toString (n : Int64) : integerOf? (toString n.toInt) = some n :=
  integerOf?_eq_some_iff.mpr (denotes_toString n.toInt)

theorem booleanOf?_written (flag : Bool) : booleanOf? (if flag then "true" else "false") = some flag := by
  cases flag <;> decide +kernel

end Snapshot

namespace Client

variable {engine : Engine}

theorem lookUpInteger_of_held [Formats] (client : Client engine) (thread : Nat) {name : String} {builder : Builder}
    (there : client.builders.get? name = some builder) {given : Given} {key : String} (spells : Spells given key)
    {n : Int64} (held : builder.snapshot.getInteger? key = some n) :
    (client.call thread (.lookUpInteger (some name) given true)).1 =
      if Fits32 n.toInt then .integer 0 (some (Int32.ofInt n.toInt)) else .integer 1 none := by
  rw [call_lookUpInteger client thread there spells, Builder.integer_eq, held]
  dsimp only
  split
  next => rfl
  next => rfl

end Client

namespace Config
open Toml

/-- An array or a table, whose text in an array is left to the writer. -/
inductive Nested : Value → Prop
  | array (items : List Value) : Nested (.array items)
  | table (entries : Entries) : Nested (.table entries)

mutual

theorem ne_table_of_mem_valuesBelow : (value : Value) → ∀ leaf ∈ valuesBelow value,
    ∀ entries, leaf.2 ≠ .table entries
  | .table entries => by
    unfold valuesBelow
    exact ne_table_of_mem_valuesOf entries
  | .array _ | .string _ | .integer _ | .float _ | .boolean _ | .datetime _ => by
    intro leaf member entries
    unfold valuesBelow at member
    rw [List.mem_singleton.mp member]
    nofun

theorem ne_table_of_mem_valuesOf : (entries : Entries) → ∀ leaf ∈ valuesOf entries,
    ∀ inner, leaf.2 ≠ .table inner
  | [] => by
    intro leaf member
    unfold valuesOf at member
    cases member
  | (key, value) :: entries => by
    intro leaf member
    unfold valuesOf at member
    obtain inside | later := List.mem_append.mp member
    · obtain ⟨other, there, rfl⟩ := List.mem_map.mp inside
      exact ne_table_of_mem_valuesBelow value other there
    · exact ne_table_of_mem_valuesOf entries leaf later

end

section
variable [Formats]

/-- What the lookups of a key give where it has a value of a document. A client of any kind whose
builder holds the snapshot gets an integer if it has 32 bits. -/
def Recovers (snapshot : Snapshot) (key : String) : Value → Prop
  | .integer n =>
    snapshot.getInteger? key = some n ∧
      ∀ (engine : Engine) (client : Client engine) (thread : Nat) (name : String) (builder : Builder) (given : Given),
        client.builders.get? name = some builder → builder.snapshot = snapshot → Spells given key →
          (client.call thread (.lookUpInteger (some name) given true)).1 =
            if Fits32 n.toInt then .integer 0 (some (Int32.ofInt n.toInt)) else .integer 1 none
  | .boolean flag => snapshot.getBoolean? key = some flag
  | .string text => snapshot.get? key = some text
  | value => ∃ text, leafText value = .answered text ∧ snapshot.get? key = some text

theorem recovers_of_held {snapshot : Snapshot} {key text : String} {value : Value}
    (shown : leafText value = .answered text) (held : snapshot.get? key = some text) :
    Recovers snapshot key value := by
  cases value with
  | integer n =>
    cases shown
    have read : snapshot.getInteger? key = some n := by
      rw [Snapshot.getInteger?, held, Option.bind_some, Snapshot.integerOf?_toString]
    refine ⟨read, fun engine client thread name builder given there same spells => ?_⟩
    subst same
    exact client.lookUpInteger_of_held thread there spells read
  | boolean flag =>
    have words : text = if flag then "true" else "false" := by
      cases flag <;> cases shown <;> rfl
    change snapshot.getBoolean? key = some flag
    rw [Snapshot.getBoolean?, held, Option.bind_some, words, Snapshot.booleanOf?_written]
  | string written =>
    cases shown
    exact held
  | array _ | table _ | float _ | datetime _ => exact ⟨text, shown, held⟩

/-- There is no text only for what the writer panics over in an array. -/
theorem joinedText_panicked {items : List Value} {payload : Payload} (panics : joinedText items = .panicked payload) :
    ∃ item ∈ items, Nested item ∧ Formats.inline item = .panicked payload := by
  have alone {item : Value} (panics : itemText item = .panicked payload) :
      Nested item ∧ Formats.inline item = .panicked payload := by
    match item with
    | .array items => exact ⟨.array items, panics⟩
    | .table entries => exact ⟨.table entries, panics⟩
    | .string _ | .integer _ | .float _ | .datetime _ | .boolean true | .boolean false => cases panics
  induction items with
  | nil => cases panics
  | cons item items ih =>
    cases items with
    | nil => exact ⟨item, List.mem_cons_self, alone panics⟩
    | cons next items =>
      rw [joinedText] at panics
      cases first : itemText item with
      | panicked cause =>
        rw [first] at panics
        cases panics
        exact ⟨item, List.mem_cons_self, alone first⟩
      | answered text =>
        cases rest : joinedText (next :: items) with
        | answered texts =>
          rw [first, rest] at panics
          cases panics
        | panicked cause =>
          rw [first, rest] at panics
          cases panics
          obtain ⟨nested, member, found⟩ := ih rest
          exact ⟨nested, List.mem_cons_of_mem _ member, found⟩

/-- A document gives every leaf back under its keys joined by points, in any case, over any base, unless a
later leaf has the same key. Only an array or a table in an array that the writer panics over keeps it from that. -/
theorem typed_leaves_are_recovered {entries : Entries} {before after : List (List String × Value)}
    {leaf : List String × Value} (split : valuesOf entries = before ++ leaf :: after)
    (last : ∀ later ∈ after, fold (leafKey later) ≠ fold (leafKey leaf)) (base : Snapshot) :
    match overlay base entries with
    | .answered snapshot => ∀ key, fold key = fold (leafKey leaf) → Recovers snapshot key leaf.2
    | .panicked payload => ∃ path items item, (path, .array items) ∈ valuesOf entries ∧ item ∈ items ∧
        Nested item ∧ Formats.inline item = .panicked payload := by
  rw [overlay_eq]
  cases made : inserted (valuesOf entries) with
  | answered snapshot =>
    intro key same
    obtain ⟨text, shown⟩ : ∃ text, leafText leaf.2 = .answered text :=
      firstPanic?_eq_none_iff.mp (inserted_eq_answered_iff.mp made).1 leaf (by simp [split])
    have held : snapshot.get? key = some text := by
      rw [get?_inserted_iff made, same]
      exact ⟨before, leaf, after, split, shown, rfl, last⟩
    refine recovers_of_held shown ?_
    rw [Snapshot.get?_overlaidWith base (inserted_canonical made).ordered, held]
    rfl
  | panicked payload =>
    obtain ⟨first, ⟨path, value⟩, rest, all, -, panics⟩ := firstPanic?_eq_some_iff.mp (inserted_eq_panicked_iff.mp made)
    have member : (path, value) ∈ valuesOf entries := by simp [all]
    match value with
    | .array items =>
      obtain ⟨item, inside, nested, found⟩ := joinedText_panicked panics
      exact ⟨path, items, item, member, inside, nested, found⟩
    | .table inner => exact absurd rfl (ne_table_of_mem_valuesOf entries _ member inner)
    | .string _ | .integer _ | .float _ | .datetime _ | .boolean true | .boolean false => cases panics

end

open scoped Formats.Standard

/-- The least integer comes back from under a key that something else was written under before. -/
theorem least_integer_is_recovered :
    ∃ snapshot, overlay .empty [("A.b", .boolean true), ("a", .table [("B", .integer Int64.minValue)])] =
        .answered snapshot ∧
      snapshot.getInteger? "a.b" = some Int64.minValue := by
  let entries : Entries := [("A.b", .boolean true), ("a", .table [("B", .integer Int64.minValue)])]
  have split : valuesOf entries = [(["A.b"], .boolean true)] ++ (["a", "B"], .integer Int64.minValue) :: [] := rfl
  have recovered := typed_leaves_are_recovered split (fun _ => nofun) .empty
  obtain ⟨snapshot, built⟩ : ∃ snapshot, overlay .empty entries = .answered snapshot := ⟨_, rfl⟩
  rw [built] at recovered
  exact ⟨snapshot, built, (recovered "a.b" (by decide +kernel)).1⟩

end Config
end DfsClient
