import DfsClient.Formats.Standard
import DfsClient.Proofs.SnapshotRuns

/-! Layers of snapshots. Laying one over another lets the upper one win, key by key. So it makes no difference how
layers are grouped, a layer without entries does nothing, and a layer twice is the layer once; a value that is set
is a layer of one entry, and a text is the layer that it makes alone. -/

namespace DfsClient

namespace Snapshot

variable {a b c : Snapshot}

theorem overlaidWith_assoc (first : a.Canonical) (second : b.Canonical) (third : c.Canonical) :
    (a.overlaidWith b).overlaidWith c = a.overlaidWith (b.overlaidWith c) := by
  have upper := second.overlaidWith third
  refine ((first.overlaidWith second).overlaidWith third).ext (first.overlaidWith upper) fun key => ?_
  calc ((a.overlaidWith b).overlaidWith c).get? key
      = (c.get? key).or ((a.overlaidWith b).get? key) := get?_overlaidWith _ third.ordered key
    _ = (c.get? key).or ((b.get? key).or (a.get? key)) := by rw [get?_overlaidWith a second.ordered]
    _ = ((c.get? key).or (b.get? key)).or (a.get? key) := Option.or_assoc.symm
    _ = ((b.overlaidWith c).get? key).or (a.get? key) := by rw [get?_overlaidWith b third.ordered]
    _ = (a.overlaidWith (b.overlaidWith c)).get? key := (get?_overlaidWith a upper.ordered key).symm

theorem overlaidWith_empty (a : Snapshot) : a.overlaidWith .empty = a := rfl

theorem empty_overlaidWith (canonical : a.Canonical) : empty.overlaidWith a = a := by
  refine (canonical_empty.overlaidWith canonical).ext canonical fun key => ?_
  rw [get?_overlaidWith empty canonical.ordered]
  exact Option.or_none

theorem overlaidWith_self (canonical : a.Canonical) : a.overlaidWith a = a := by
  refine (canonical.overlaidWith canonical).ext canonical fun key => ?_
  rw [get?_overlaidWith a canonical.ordered, Option.or_self]

theorem withValue_eq_overlaidWith (a : Snapshot) (key value : String) :
    a.withValue key value = a.overlaidWith (empty.withValue key value) := rfl

end Snapshot

namespace Config

/-- Goes on with a snapshot. A text that is no document, and a panic, are the end. -/
def andThen (outcome : Option (Reply Snapshot)) (next : Snapshot → Option (Reply Snapshot)) :
    Option (Reply Snapshot) :=
  match outcome with
  | some (.answered snapshot) => next snapshot
  | other => other

section
variable [Formats]

/-- A text lies over a snapshot as what it makes alone, or there is nothing of it in either case. -/
theorem overlayText?_eq (base : Snapshot) (text : String) :
    overlayText? base text =
      andThen (overlayText? .empty text) fun upper => some (.answered (base.overlaidWith upper)) := by
  unfold overlayText?
  cases Formats.document? text with
  | none => rfl
  | some entries =>
    rw [Option.map_some, Option.map_some, overlay_eq, overlay_eq]
    cases made : inserted (valuesOf entries) with
    | panicked payload => rfl
    | answered upper =>
      rw [Reply.map, Reply.map, Snapshot.empty_overlaidWith (inserted_canonical made)]
      rfl

/-- Just a document whose leaves all have a text makes a snapshot. -/
theorem overlayText?_answered_iff {text : String} :
    (∃ upper, overlayText? .empty text = some (.answered upper)) ↔
      ∃ entries, Formats.document? text = some entries ∧
        ∀ leaf ∈ valuesOf entries, ∃ words, leafText leaf.2 = .answered words := by
  unfold overlayText?
  cases Formats.document? text with
  | none => simp
  | some entries =>
    have made : (∃ upper, overlay .empty entries = .answered upper) ↔ firstPanic? (valuesOf entries) = none := by
      rw [overlay_eq, inserted_eq]
      cases firstPanic? (valuesOf entries) <;> simp [Reply.map]
    simp only [Option.map_some, Option.some.injEq, made, firstPanic?_eq_none_iff, exists_eq_left']

theorem overlayText?_overlayText? {a : Snapshot} (canonical : a.Canonical) (s t : String) :
    andThen (overlayText? a s) (overlayText? · t) =
      andThen (overlayText? .empty s) fun lower => andThen (overlayText? .empty t) fun upper =>
        some (.answered (a.overlaidWith (lower.overlaidWith upper))) := by
  rw [overlayText?_eq a s]
  match first : overlayText? .empty s with
  | none => rfl
  | some (.panicked payload) => rfl
  | some (.answered lower) =>
    dsimp only [andThen]
    rw [overlayText?_eq _ t]
    match last : overlayText? .empty t with
    | none => rfl
    | some (.panicked payload) => rfl
    | some (.answered upper) =>
      dsimp only [andThen]
      rw [Snapshot.overlaidWith_assoc canonical (overlayText?_canonical Snapshot.canonical_empty first)
        (overlayText?_canonical Snapshot.canonical_empty last)]

theorem perform_other (shelf : Table Snapshot) {step : Step} {name : String} (other : step.into ≠ name) :
    (perform shelf step).get? name = shelf.get? name := by
  unfold perform
  split
  · exact Table.get?_set_other _ _ other.symm
  · rfl

/-- Whatever is made of a snapshot, it stays as it is for as long as its name is not used for another one. -/
theorem performed_other (shelf : Table Snapshot) {steps : List Step} {name : String}
    (others : ∀ step ∈ steps, step.into ≠ name) : (performed shelf steps).get? name = shelf.get? name := by
  induction steps generalizing shelf with
  | nil => rfl
  | cons step rest ih =>
    obtain ⟨other, later⟩ := List.forall_mem_cons.mp others
    exact (ih (perform shelf step) later).trans (perform_other shelf other)

/-- Snapshots that a program comes to have are layered associatively, with the empty one as identity on both
sides; the upper layer wins, a layer over itself is itself, and a value that is set is a layer of one entry. Texts
that are laid over a snapshot one after the other come to the same as their own snapshots, layered first; and what
a snapshot is made from stays as it is. -/
theorem layering_is_a_monoid {a b c : Snapshot} (first : Made a) (second : Made b) (third : Made c) :
    (∀ key, (a.overlaidWith b).get? key = (b.get? key).or (a.get? key)) ∧
    (a.overlaidWith b).overlaidWith c = a.overlaidWith (b.overlaidWith c) ∧
    a.overlaidWith .empty = a ∧ Snapshot.empty.overlaidWith a = a ∧ a.overlaidWith a = a ∧
    (∀ key value, a.withValue key value = a.overlaidWith (Snapshot.empty.withValue key value)) ∧
    (∀ s t, andThen (overlayText? a s) (overlayText? · t) =
      andThen (overlayText? .empty s) fun lower => andThen (overlayText? .empty t) fun upper =>
        some (.answered (a.overlaidWith (lower.overlaidWith upper)))) ∧
    (∀ text, (∃ upper, overlayText? .empty text = some (.answered upper)) ↔
      ∃ entries, Formats.document? text = some entries ∧
        ∀ leaf ∈ valuesOf entries, ∃ words, leafText leaf.2 = .answered words) ∧
    ∀ (shelf : Table Snapshot) (steps : List Step) (name : String), (∀ step ∈ steps, step.into ≠ name) →
      (performed shelf steps).get? name = shelf.get? name := by
  refine ⟨Snapshot.get?_overlaidWith a second.canonical.ordered,
    Snapshot.overlaidWith_assoc first.canonical second.canonical third.canonical, Snapshot.overlaidWith_empty a,
    Snapshot.empty_overlaidWith first.canonical, Snapshot.overlaidWith_self first.canonical,
    Snapshot.withValue_eq_overlaidWith a, overlayText?_overlayText? first.canonical,
    fun _ => overlayText?_answered_iff, fun shelf _ _ others => performed_other shelf others⟩

end

open scoped Formats.Standard

theorem later_layer_wins_in_any_case :
    let made (key value : String) := Snapshot.empty.withValue key value
    let (a, b, c) := (made "Key" "1", made "kEY" "2", made "other" "3")
    (Made a ∧ Made b ∧ Made c) ∧ (a.overlaidWith b).get? "key" = some "2" ∧
      (a.overlaidWith b).overlaidWith c = a.overlaidWith (b.overlaidWith c) := by
  intro made
  have alone (key value : String) : Made (made key value) := ⟨[⟨"s", .put none key value⟩], "s", rfl⟩
  have laws := layering_is_a_monoid (alone "Key" "1") (alone "kEY" "2") (alone "other" "3")
  refine ⟨⟨alone .., alone .., alone ..⟩, ?_, laws.2.1⟩
  rw [laws.1]
  decide +kernel

end Config
end DfsClient
