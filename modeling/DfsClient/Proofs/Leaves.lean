import DfsClient.Formats.Standard
import DfsClient.Proofs.Flattening

/-! The snapshot of a document is made of its leaves, in their order: each puts its text under its
keys joined by points, and of those under one key the last one stays. So a table counts for nothing
but the leaves in it, and what follows in a document is laid over what comes before. -/

namespace DfsClient

/-- What stays of entries for one key is the last of them. -/
theorem Snapshot.latest_eq_some_iff {entries : List (String × String)} {key text : String} :
    latest entries key = some text ↔
      ∃ before name after, entries = before ++ (name, text) :: after ∧ Text.fold name = Text.fold key ∧
        ∀ later ∈ after, Text.fold later.1 ≠ Text.fold key := by
  unfold latest
  rw [Option.map_eq_some_iff]
  constructor
  · rintro ⟨⟨name, value⟩, found, rfl⟩
    obtain ⟨named, after, before, split, others⟩ := List.find?_eq_some_iff_append.mp found
    refine ⟨before.reverse, name, after.reverse, ?_, beq_iff_eq.mp named, ?_⟩
    · rw [← List.reverse_reverse entries, split]
      simp
    · intro later member same
      have other := others later (List.mem_reverse.mp member)
      simp [Text.sameFolded, same] at other
  · rintro ⟨before, name, after, rfl, named, others⟩
    refine ⟨(name, text), ?_, rfl⟩
    rw [List.find?_eq_some_iff_append]
    refine ⟨beq_iff_eq.mpr named, after.reverse, before.reverse, by simp, ?_⟩
    intro later member
    have other := others later (List.mem_reverse.mp member)
    simp [Text.sameFolded, other]

namespace Config
open Toml

/-- A place for entries: among those of a table, or in a table further inside. -/
inductive Place
  | here (before after : Entries)
  | inside (before : Entries) (key : String) (place : Place) (after : Entries)

def Place.fill (entries : Entries) : Place → Entries
  | .here before after => before ++ entries ++ after
  | .inside before key place after => before ++ (key, .table (place.fill entries)) :: after

section
variable [Formats] {leaves : List (List String × Value)} {snapshot : Snapshot}

/-- A key gets the text of its last leaf. -/
theorem get?_inserted_iff (made : inserted leaves = .answered snapshot) {key text : String} :
    snapshot.get? key = some text ↔
      ∃ before leaf after, leaves = before ++ leaf :: after ∧ leafText leaf.2 = .answered text ∧
        Text.fold (leafKey leaf) = Text.fold key ∧ ∀ later ∈ after, Text.fold (leafKey later) ≠ Text.fold key := by
  have texts := firstPanic?_eq_none_iff.mp (inserted_eq_answered_iff.mp made).1
  rw [get?_inserted made, Snapshot.latest_eq_some_iff]
  constructor
  · rintro ⟨before, name, after, split, named, others⟩
    obtain ⟨first, rest, rfl, -, split⟩ := List.filterMap_eq_append_iff.mp split
    obtain ⟨silent, leaf, later, rfl, -, entry, rfl⟩ := List.filterMap_eq_cons_iff.mp split
    obtain ⟨words, answered, same⟩ := Option.map_eq_some_iff.mp entry
    cases same
    have whole : leafText leaf.2 = .answered text := by
      cases words : leafText leaf.2 <;> simp_all [Reply.answer?]
    refine ⟨first ++ silent, leaf, later, by simp, whole, named, fun other member => ?_⟩
    obtain ⟨words, answered⟩ := texts other (by simp [member])
    refine others (leafKey other, words) (List.mem_filterMap.mpr ⟨other, member, ?_⟩)
    rw [answered]
    rfl
  · rintro ⟨before, leaf, after, rfl, answered, named, others⟩
    refine ⟨written before, leafKey leaf, written after, ?_, named, ?_⟩
    · simp [written, answered, Reply.answer?]
    · intro later member
      obtain ⟨other, there, entry⟩ := List.mem_filterMap.mp member
      obtain ⟨words, -, rfl⟩ := Option.map_eq_some_iff.mp entry
      exact others other there

/-- Leaves in two parts are put in one part after the other. -/
theorem inserted_append (first later : List (List String × Value)) :
    inserted (first ++ later) =
      (inserted first).bind fun lower => (inserted later).map lower.overlaidWith := by
  have panics : firstPanic? (first ++ later) = (firstPanic? first).or (firstPanic? later) := List.findSome?_append
  have texts : written (first ++ later) = written first ++ written later := List.filterMap_append
  rw [inserted_eq, inserted_eq first, inserted_eq later, panics, texts]
  cases firstPanic? first with
  | some payload => rfl
  | none =>
    cases firstPanic? later with
    | some payload => rfl
    | none =>
      simp only [Option.none_or, Reply.bind, Reply.map, List.foldl_append]
      rw [(Snapshot.canonical_empty.foldl _).overlaidWith_foldl]

theorem overlay_eq (base : Snapshot) (entries : Entries) :
    overlay base entries = (inserted (valuesOf entries)).map base.overlaidWith :=
  congrArg (Reply.map base.overlaidWith) (flatten_eq entries)

/-- A document in two parts is the second part over the first. -/
theorem flatten_append (first later : Entries) :
    flatten (first ++ later) = (flatten first).bind fun lower => (flatten later).map lower.overlaidWith := by
  rw [flatten_eq, flatten_eq first, flatten_eq later, valuesOf_append, inserted_append]

theorem flattenEntries_append (snapshot : Snapshot) (outer : Option String) (first later : Entries) :
    flattenEntries snapshot outer (first ++ later) =
      (flattenEntries snapshot outer first).bind fun snapshot => flattenEntries snapshot outer later := by
  rw [flattenEntries_eq, flattenEntries_eq, valuesOf_append, putLeaves_append]
  exact congrArg _ (funext fun snapshot => (flattenEntries_eq snapshot outer later).symm)

theorem flattenEntries_cons (snapshot : Snapshot) (outer : Option String) (key : String) (value : Value)
    (entries : Entries) :
    flattenEntries snapshot outer ((key, value) :: entries) =
      (flattenValue snapshot (joinKey outer key) value).bind fun snapshot => flattenEntries snapshot outer entries := by
  rw [flattenEntries]
  rfl

/-- Entries come to the same at any place in a document if they do so in any snapshot and under any keys. -/
theorem flattenEntries_fill {one other : Entries}
    (alike : ∀ snapshot outer, flattenEntries snapshot outer one = flattenEntries snapshot outer other)
    (place : Place) (snapshot : Snapshot) (outer : Option String) :
    flattenEntries snapshot outer (place.fill one) = flattenEntries snapshot outer (place.fill other) := by
  induction place generalizing snapshot outer with
  | here before after => simp only [Place.fill, flattenEntries_append, alike]
  | inside before key place after ih =>
    simp only [Place.fill, flattenEntries_append, flattenEntries_cons, flattenValue, ih]

theorem flattenEntries_emptyTable (snapshot : Snapshot) (outer : Option String) (key : String) :
    flattenEntries snapshot outer [(key, .table [])] = flattenEntries snapshot outer [] := by
  rw [flattenEntries_cons, flattenValue, flattenEntries]
  rfl

/-- A table of one entry is the entry under both keys. -/
theorem flattenEntries_joined (snapshot : Snapshot) (outer : Option String) (key below : String) (value : Value) :
    flattenEntries snapshot outer [(key, .table [(below, value)])] =
      flattenEntries snapshot outer [(key ++ "." ++ below, value)] := by
  have name : joinKey (some (joinKey outer key)) below = joinKey outer (key ++ "." ++ below) := by
    cases outer <;> simp [joinKey, String.append_assoc]
  simp only [flattenValue, name, flattenEntries]
  exact bind_pure _

/-- The snapshot of a document is its leaves, put into an empty one in their order, up to the first that the
writer panics over: then the panic is all there is. Otherwise a key holds the text of the last leaf whose keys,
joined by points, are that key up to ASCII case, and the snapshot lies over any base. A document in two parts is
the second part over the first, an empty table counts for nothing, and a table of one entry is the entry under
both keys. -/
theorem snapshot_is_made_of_leaves (entries : Entries) :
    let leaves := valuesOf entries
    flatten entries = inserted leaves ∧
    (∀ payload, inserted leaves = .panicked payload ↔
      ∃ before leaf after, leaves = before ++ leaf :: after ∧
        (∀ earlier ∈ before, ∃ text, leafText earlier.2 = .answered text) ∧ leafText leaf.2 = .panicked payload) ∧
    (∀ snapshot, inserted leaves = .answered snapshot →
      snapshot.Canonical ∧ ∀ key text, snapshot.get? key = some text ↔
        ∃ before leaf after, leaves = before ++ leaf :: after ∧ leafText leaf.2 = .answered text ∧
          Text.fold (leafKey leaf) = Text.fold key ∧
            ∀ later ∈ after, Text.fold (leafKey later) ≠ Text.fold key) ∧
    (∀ base text, Formats.document? text = some entries →
      match inserted leaves with
      | .panicked payload => overlayText? base text = some (.panicked payload)
      | .answered made => ∃ snapshot, overlayText? base text = some (.answered snapshot) ∧
          ∀ key, snapshot.get? key = (made.get? key).or (base.get? key)) ∧
    (∀ first later, entries = first ++ later →
      flatten entries = (flatten first).bind fun lower => (flatten later).map lower.overlaidWith) ∧
    (∀ (place : Place) key, entries = place.fill [(key, .table [])] → flatten entries = flatten (place.fill [])) ∧
    ∀ (place : Place) key below value, entries = place.fill [(key, .table [(below, value)])] →
      flatten entries = flatten (place.fill [(key ++ "." ++ below, value)]) := by
  intro leaves
  refine ⟨flatten_eq entries, fun payload => ?_, fun snapshot made => ?_, fun base text read => ?_, ?_, ?_, ?_⟩
  · rw [inserted_eq_panicked_iff, firstPanic?_eq_some_iff]
  · exact ⟨inserted_canonical made, fun _ _ => get?_inserted_iff made⟩
  · rw [overlayText?, read, Option.map_some, overlay_eq]
    cases made : inserted leaves with
    | panicked payload => rfl
    | answered snapshot =>
      exact ⟨_, rfl, Snapshot.get?_overlaidWith base (inserted_canonical made).ordered⟩
  · rintro first later rfl
    exact flatten_append first later
  · rintro place key rfl
    exact flattenEntries_fill (fun snapshot outer => flattenEntries_emptyTable snapshot outer key) place _ _
  · rintro place key below value rfl
    exact flattenEntries_fill (fun snapshot outer => flattenEntries_joined snapshot outer key below value) place _ _

end

open scoped Formats.Standard

/-- Later keys win in any case, and an array in an array is left to the writer. -/
example :
    flatten [("A.b", .integer 1), ("a", .table [("B", .array [.boolean true, .array [.string "x"]])])] =
      .answered ⟨[("a.b", "true,[\"x\"]")]⟩ := by decide +kernel

end Config
end DfsClient
