import DfsClient.Config.Resources
import DfsClient.Formats.Standard
import DfsClient.Proofs.Leaves
import DfsClient.Proofs.Tables
import DfsClient.Proofs.TextOrder
import Mathlib.Data.Set.Card

/-! Snapshots that a program makes. It keeps them under names and makes new ones from those that it has, from
texts and from files. Every snapshot that it comes to has folded keys in ascending order, so that there is one
entry for each key that it is asked for up to ASCII case, and no entry that it cannot be asked for. -/

namespace DfsClient

theorem Text.isUpper_fold {text : String} {c : Char} (member : c ∈ (fold text).toList) : c.isUpper = false := by
  rw [toList_fold, List.mem_map] at member
  obtain ⟨d, -, rfl⟩ := member
  exact isUpper_toLower d

namespace Snapshot.Canonical

variable {snapshot : Snapshot}

theorem ascending (canonical : snapshot.Canonical) :
    snapshot.entries.Pairwise fun one other => Text.encode one.1 < Text.encode other.1 :=
  canonical.ordered.imp Text.encode_lt_encode.mpr

theorem nodup_keys (canonical : snapshot.Canonical) : (snapshot.entries.map Prod.fst).Nodup :=
  List.pairwise_map.mpr (canonical.ordered.imp ne_of_lt)

theorem get?_of_mem (canonical : snapshot.Canonical) {entry : String × String} (member : entry ∈ snapshot.entries)
    {asked : String} (same : Text.fold asked = Text.fold entry.1) : snapshot.get? asked = some entry.2 := by
  have held := (canonical.mem_iff.mp member).2
  rwa [get?, ← same] at held

theorem isSome_get?_iff (canonical : snapshot.Canonical) {asked : String} :
    (snapshot.get? asked).isSome ↔ Text.fold asked ∈ snapshot.entries.map Prod.fst := by
  constructor
  · intro found
    obtain ⟨value, held⟩ := Option.isSome_iff_exists.mp found
    rw [get?, ← Text.fold_fold asked] at held
    exact List.mem_map.mpr ⟨(Text.fold asked, value), canonical.mem_iff.mpr ⟨Text.fold_fold asked, held⟩, rfl⟩
  · intro listed
    obtain ⟨entry, member, same⟩ := List.mem_map.mp listed
    rw [canonical.get?_of_mem member (same ▸ (canonical.folded entry member).symm)]
    rfl

/-- There are as many entries as keys that are found, where keys that differ in ASCII case count once. -/
theorem encard_keys (canonical : snapshot.Canonical) :
    (Text.fold '' {key | (snapshot.get? key).isSome}).encard = snapshot.size := by
  have keys : Text.fold '' {key | (snapshot.get? key).isSome} = (snapshot.entries.map Prod.fst).toFinset := by
    ext key
    simp only [Set.mem_image, Set.mem_ofPred_eq, List.coe_toFinset]
    constructor
    · rintro ⟨asked, found, rfl⟩
      exact canonical.isSome_get?_iff.mp found
    · intro listed
      obtain ⟨entry, member, rfl⟩ := List.mem_map.mp listed
      have folded := canonical.folded entry member
      exact ⟨entry.1, canonical.isSome_get?_iff.mpr (folded.symm ▸ listed), folded⟩
  rw [keys, Set.encard_coe_eq_coe_finsetCard, List.toFinset_card_of_nodup canonical.nodup_keys, List.length_map, size]

end Snapshot.Canonical

namespace Config

/-- A way to make a snapshot. Those that it is made from are named, and without a name it is made from the empty
one. -/
inductive Making where
  | fresh
  | put (base : Option String) (key value : String)
  | layer (base newer : Option String)
  | checkedPut (base : Option String) (key value : String)
  | document (base : Option String) (text : String)
  | file (tree : FileTree) (base : Option String) (path : String)
  | defaults (tree : FileTree) (path : SearchPath)

/-- A snapshot is made and kept under a name. -/
structure Step where
  into : String
  making : Making

def operand (shelf : Table Snapshot) (handle : Option String) : Snapshot := (shelf.find? handle).getD .empty

theorem operand_canonical {shelf : Table Snapshot} (kept : shelf.Each Snapshot.Canonical) (handle : Option String) :
    (operand shelf handle).Canonical := by
  unfold operand
  cases held : shelf.find? handle with
  | none => exact Snapshot.canonical_empty
  | some snapshot => exact kept.find held

section
variable [Formats]

/-- What comes of it, unless it is refused or ends in a panic. -/
def Making.result? (shelf : Table Snapshot) : Making → Option Snapshot
  | .fresh => some .empty
  | .put base key value => some ((operand shelf base).withValue key value)
  | .layer base newer => some ((operand shelf base).overlaidWith (operand shelf newer))
  | .checkedPut base key value => (operand shelf base).overlay? key value
  | .document base text => (overlayText? (operand shelf base) text).bind Reply.answer?
  | .file tree base path =>
    match overlayFile tree (operand shelf base) path with
    | .answered (.ok snapshot) => some snapshot
    | _ => none
  | .defaults tree path =>
    match (loadDefaults tree path).1 with
    | .answered loaded => loaded
    | .panicked _ => none

def perform (shelf : Table Snapshot) (step : Step) : Table Snapshot :=
  match step.making.result? shelf with
  | some snapshot => shelf.set step.into snapshot
  | none => shelf

def performed (shelf : Table Snapshot) (steps : List Step) : Table Snapshot := steps.foldl perform shelf

/-- A snapshot that some program comes to have. -/
def Made (snapshot : Snapshot) : Prop := ∃ steps name, (performed {} steps).get? name = some snapshot

variable {shelf : Table Snapshot} {base snapshot : Snapshot}

theorem overlay_canonical (canonical : base.Canonical) {entries : Toml.Entries}
    (laid : overlay base entries = .answered snapshot) : snapshot.Canonical := by
  rw [overlay_eq] at laid
  cases made : inserted (valuesOf entries) with
  | answered upper =>
    rw [made] at laid
    cases laid
    exact canonical.overlaidWith (inserted_canonical made)
  | panicked payload =>
    rw [made] at laid
    cases laid

theorem overlayText?_canonical (canonical : base.Canonical) {text : String}
    (laid : overlayText? base text = some (.answered snapshot)) : snapshot.Canonical := by
  obtain ⟨entries, -, laid⟩ := Option.map_eq_some_iff.mp laid
  exact overlay_canonical canonical laid

theorem overlayFile_canonical (canonical : base.Canonical) {tree : FileTree} {path : String}
    (laid : overlayFile tree base path = .answered (.ok snapshot)) : snapshot.Canonical := by
  unfold overlayFile at laid
  split at laid
  next => cases laid
  next text _ =>
    split at laid
    next reply overlaid =>
      cases reply with
      | answered whole =>
        cases laid
        exact overlayText?_canonical canonical overlaid
      | panicked payload => cases laid
    next => cases laid

theorem layer_canonical {tree : FileTree} {path : SearchPath} {resources : List String} {layers : Layers}
    (canonical : layers.snapshot.Canonical) (loaded : (layer tree path resources layers).1 = .answered (some snapshot)) :
    snapshot.Canonical := by
  fun_induction layer tree path resources layers with
  | case1 layers =>
    dsimp only at loaded
    split at loaded
    · cases loaded
      exact canonical
    · cases loaded
  | case2 layers resource resources _ note ih => exact ih canonical loaded
  | case3 layers resource resources file _ whole laid note ih => exact ih (overlayFile_canonical canonical laid) loaded
  | case4 => cases loaded
  | case5 => cases loaded

theorem loadDefaults_canonical {tree : FileTree} {path : SearchPath}
    (loaded : (loadDefaults tree path).1 = .answered (some snapshot)) : snapshot.Canonical :=
  layer_canonical Snapshot.canonical_empty loaded

theorem result_canonical (kept : shelf.Each Snapshot.Canonical) {making : Making}
    (made : making.result? shelf = some snapshot) : snapshot.Canonical := by
  have operand := operand_canonical kept
  cases making with
  | fresh =>
    cases made
    exact Snapshot.canonical_empty
  | put base key value =>
    cases made
    exact (operand base).withValue key value
  | layer base newer =>
    cases made
    exact (operand base).overlaidWith (operand newer)
  | checkedPut base key value =>
    simp only [Making.result?, Snapshot.overlay?] at made
    split at made
    · cases made
    · cases made
      exact (operand base).withValue key value
  | document base text =>
    obtain ⟨reply, laid, answered⟩ := Option.bind_eq_some_iff.mp made
    cases reply with
    | answered whole =>
      cases answered
      exact overlayText?_canonical (operand base) laid
    | panicked payload => cases answered
  | file tree base path =>
    simp only [Making.result?] at made
    split at made
    next laid =>
      cases made
      exact overlayFile_canonical (operand base) laid
    next => cases made
  | defaults tree path =>
    simp only [Making.result?] at made
    split at made
    next answered =>
      cases made
      exact loadDefaults_canonical answered
    next => cases made

theorem perform_canonical (kept : shelf.Each Snapshot.Canonical) (step : Step) :
    (perform shelf step).Each Snapshot.Canonical := by
  unfold perform
  split
  next made => exact kept.set step.into (result_canonical kept made)
  next => exact kept

theorem performed_canonical (kept : shelf.Each Snapshot.Canonical) (steps : List Step) :
    (performed shelf steps).Each Snapshot.Canonical := by
  induction steps generalizing shelf with
  | nil => exact kept
  | cons step rest ih => exact ih (perform_canonical kept step)

theorem Made.canonical (made : Made snapshot) : snapshot.Canonical := by
  obtain ⟨steps, name, held⟩ := made
  have nothing : ({} : Table Snapshot).Each Snapshot.Canonical := fun _ _ => nofun
  exact performed_canonical nothing steps name snapshot held

/-- The keys of a snapshot that a program comes to have are folded, ascend in the order of their bytes and
come once each. Every entry is found under its key in any ASCII case, and nothing is found under other keys, so
that the size counts the keys up to ASCII case; and a snapshot is no more than what is found in it. -/
theorem made_snapshots_are_what_they_hold (made : Made snapshot) :
    (∀ entry ∈ snapshot.entries, ∀ c ∈ entry.1.toList, c.isUpper = false) ∧
    (snapshot.entries.Pairwise fun one other => Text.encode one.1 < Text.encode other.1) ∧
    (snapshot.entries.map Prod.fst).Nodup ∧
    (∀ entry ∈ snapshot.entries, ∀ asked, Text.sameFolded asked entry.1 = true →
      snapshot.get? asked = some entry.2) ∧
    (∀ asked, (∀ entry ∈ snapshot.entries, Text.sameFolded asked entry.1 = false) → snapshot.get? asked = none) ∧
    (Text.fold '' {key | (snapshot.get? key).isSome}).encard = snapshot.size ∧
    ∀ other, Made other → (snapshot = other ↔ ∀ key, snapshot.get? key = other.get? key) := by
  have canonical := made.canonical
  refine ⟨?_, canonical.ascending, canonical.nodup_keys, ?_, ?_, canonical.encard_keys, ?_⟩
  · intro entry member c inside
    rw [← canonical.folded entry member] at inside
    exact Text.isUpper_fold inside
  · intro entry member asked same
    exact canonical.get?_of_mem member (beq_iff_eq.mp same)
  · intro asked others
    rw [← Option.not_isSome_iff_eq_none, canonical.isSome_get?_iff]
    intro listed
    obtain ⟨entry, member, same⟩ := List.mem_map.mp listed
    have apart := others entry member
    rw [Text.sameFolded, canonical.folded entry member, same, beq_self_eq_true] at apart
    cases apart
  · intro other made'
    constructor
    · rintro rfl key
      rfl
    · exact canonical.ext made'.canonical

end

open scoped Formats.Standard

theorem key_is_found_in_another_case :
    let steps : List Step := [⟨"a", .document none "A.b = 'x'"⟩, ⟨"b", .put (some "a") "K" "1"⟩,
      ⟨"c", .layer (some "b") (some "a")⟩]
    let snapshot : Snapshot := ⟨[("a.b", "x"), ("k", "1")]⟩
    (performed {} steps).get? "c" = some snapshot ∧ snapshot.get? "A.B" = some "x" := by
  intro steps snapshot
  have held : (performed {} steps).get? "c" = some snapshot := by decide +kernel
  obtain ⟨-, -, -, found, -⟩ := made_snapshots_are_what_they_hold ⟨steps, "c", held⟩
  exact ⟨held, found ("a.b", "x") List.mem_cons_self "A.B" (by decide +kernel)⟩

end Config
end DfsClient
