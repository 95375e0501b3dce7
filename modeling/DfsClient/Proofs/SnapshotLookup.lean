import DfsClient.Config.Snapshot
import Mathlib.Data.String.Basic

/-! What a snapshot holds under a key once values were put into it or another snapshot
was laid over it. Overlays need the entries in order, since only then no key comes twice. -/

namespace DfsClient.Snapshot

theorem lookup_place (key value asked : String) (entries : List (String × String)) :
    (place key value entries).lookup asked =
      if asked = key then some value else entries.lookup asked := by
  induction entries with
  | nil =>
    by_cases same : asked = key
    · simp [place, same]
    · simp [place, List.lookup_cons, same, beq_false_of_ne same]
  | cons entry rest ih =>
    obtain ⟨other, held⟩ := entry
    by_cases same : asked = key
    · subst same
      by_cases before : asked < other
      · simp [place, before]
      · by_cases itself : asked = other
        · simp [place, itself]
        · simp [place, before, itself, List.lookup_cons, beq_false_of_ne itself, ih]
    · by_cases before : key < other
      · simp [place, before, List.lookup_cons, same, beq_false_of_ne same]
      · by_cases itself : key = other
        · simp [place, itself, List.lookup_cons, beq_false_of_ne (itself ▸ same), itself ▸ same]
        · simp [place, before, itself, List.lookup_cons, ih, same]

theorem get?_withValue (snapshot : Snapshot) (key value asked : String) :
    (snapshot.withValue key value).get? asked =
      if Text.fold asked = Text.fold key then some value else snapshot.get? asked :=
  lookup_place ..

def latest (entries : List (String × String)) (key : String) : Option String :=
  (entries.reverse.find? fun entry => Text.sameFolded entry.1 key).map Prod.snd

theorem latest_cons (entry : String × String) (rest : List (String × String)) (key : String) :
    latest (entry :: rest) key =
      (latest rest key).or (if Text.fold key = Text.fold entry.1 then some entry.2 else none) := by
  unfold latest
  rw [List.reverse_cons, List.find?_append, Option.map_or]
  congr 1
  by_cases same : Text.fold key = Text.fold entry.1
  · simp [Text.sameFolded, same]
  · simp [Text.sameFolded, same, beq_false_of_ne (Ne.symm same)]

theorem get?_foldl (snapshot : Snapshot) (entries : List (String × String)) (key : String) :
    (entries.foldl (fun snapshot entry => snapshot.withValue entry.1 entry.2) snapshot).get? key =
      (latest entries key).or (snapshot.get? key) := by
  induction entries generalizing snapshot with
  | nil => rfl
  | cons entry rest ih =>
    rw [List.foldl_cons, ih, latest_cons, get?_withValue, Option.or_assoc]
    congr 1
    split <;> rfl

/-- Keys come in order, so that none comes twice. -/
def Ordered (snapshot : Snapshot) : Prop := snapshot.entries.Pairwise (·.1 < ·.1)

theorem ordered_empty : Ordered empty := List.Pairwise.nil

theorem mem_place {key value : String} {entries : List (String × String)} {entry : String × String}
    (member : entry ∈ place key value entries) : entry.1 = key ∨ entry ∈ entries := by
  induction entries with
  | nil => exact .inl (by simp [place] at member; rw [member])
  | cons head rest ih =>
    obtain ⟨other, held⟩ := head
    unfold place at member
    split at member
    · cases List.mem_cons.mp member with
      | inl same => exact .inl (by rw [same])
      | inr there => exact .inr there
    · split at member
      · cases List.mem_cons.mp member with
        | inl same => exact .inl (by rw [same])
        | inr there => exact .inr (List.mem_cons_of_mem _ there)
      · cases List.mem_cons.mp member with
        | inl same => exact .inr (same ▸ List.mem_cons_self)
        | inr there =>
          cases ih there with
          | inl same => exact .inl same
          | inr there => exact .inr (List.mem_cons_of_mem _ there)

theorem pairwise_place {entries : List (String × String)} (ordered : entries.Pairwise (·.1 < ·.1))
    (key value : String) : (place key value entries).Pairwise (·.1 < ·.1) := by
  induction entries with
  | nil => exact List.pairwise_singleton ..
  | cons head rest ih =>
    obtain ⟨other, held⟩ := head
    obtain ⟨first, later⟩ := List.pairwise_cons.mp ordered
    unfold place
    split
    next before =>
      refine List.pairwise_cons.mpr ⟨fun entry member => ?_, ordered⟩
      cases List.mem_cons.mp member with
      | inl same => rw [same]; exact before
      | inr there => exact before.trans (first entry there)
    next notBefore =>
      split
      next same => exact List.pairwise_cons.mpr ⟨same ▸ first, later⟩
      next differ =>
        refine List.pairwise_cons.mpr ⟨fun entry member => ?_, ih later⟩
        cases mem_place member with
        | inl same => exact same ▸ lt_of_le_of_ne (not_lt.mp notBefore) (Ne.symm differ)
        | inr there => exact first entry there

/-- An overlay lets the newer value win and leaves the other keys alone. -/
theorem get?_overlaidWith (snapshot : Snapshot) {newer : Snapshot} (ordered : newer.Ordered)
    (key : String) :
    (snapshot.overlaidWith newer).get? key = (newer.get? key).or (snapshot.get? key) := by
  obtain ⟨entries⟩ := newer
  unfold overlaidWith
  induction entries generalizing snapshot with
  | nil => rfl
  | cons entry rest ih =>
    obtain ⟨first, later⟩ := List.pairwise_cons.mp ordered
    obtain ⟨other, held⟩ := entry
    rw [List.foldl_cons, ih _ later]
    simp only [get?, put, lookup_place]
    by_cases same : Text.fold key = other
    · have absent : rest.lookup other = none := by
        rw [List.lookup_eq_none_iff]
        intro entry member
        simpa using (first entry member).ne
      simp [same, absent]
    · simp [List.lookup_cons, same, beq_false_of_ne same]

end DfsClient.Snapshot
