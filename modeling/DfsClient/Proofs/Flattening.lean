import DfsClient.Config.Flatten
import DfsClient.Proofs.SnapshotLaws

/-! What a document comes to. Its leaves are listed depth first, each with the keys on the way to it, and
are put into a snapshot one after the other, under these keys joined by points. A leaf that the writer
panics over is the end of it. Otherwise each key gets the text of its last leaf. -/

namespace DfsClient.Config
open Toml

mutual

/-- The leaves below a value, depth first, with the keys that lead to each from there. -/
def valuesBelow : Value → List (List String × Value)
  | .table entries => valuesOf entries
  | value => [([], value)]

def valuesOf : Entries → List (List String × Value)
  | [] => []
  | (key, value) :: entries =>
    (valuesBelow value).map (fun leaf => (key :: leaf.1, leaf.2)) ++ valuesOf entries

end

def leafKey (leaf : List String × Value) : String := String.intercalate "." leaf.1

theorem valuesOf_append (first later : Entries) : valuesOf (first ++ later) = valuesOf first ++ valuesOf later := by
  induction first with
  | nil => rfl
  | cons entry first ih => rw [List.cons_append, valuesOf, valuesOf, ih, List.append_assoc]

/-- What a path below an outer key is called. -/
def below (outer : Option String) (path : List String) : String := String.intercalate "." (outer.toList ++ path)

theorem below_joinKey (outer : Option String) (key : String) (path : List String) :
    below (some (joinKey outer key)) path = below outer (key :: path) := by
  cases outer with
  | none => rfl
  | some outer =>
    cases path with
    | nil => simp [below, joinKey]
    | cons next path => simp [below, joinKey, String.append_assoc]

variable [Formats]

/-- The text of a value that stands alone or in an array. Only an array or a table is left to the writer. -/
def itemText : Value → Reply String
  | .string text => .answered text
  | .integer n => .answered (toString n.toInt)
  | .float number => .answered (Decimal.Format.write { whole := "", nan := "NaN" } number)
  | .boolean true => .answered "true"
  | .boolean false => .answered "false"
  | .datetime datetime => .answered (Formats.datetime datetime)
  | .array items => Formats.inline (.array items)
  | .table entries => Formats.inline (.table entries)

/-- The texts of items with commas between them. -/
def joinedText : List Value → Reply String
  | [] => .answered ""
  | [item] => itemText item
  | item :: next :: items => do return (← itemText item) ++ "," ++ (← joinedText (next :: items))

def leafText : Value → Reply String
  | .array items => joinedText items
  | value => itemText value

theorem scalarText_eq (value : Value) : scalarText value = itemText value := by
  match value with
  | .boolean true | .boolean false => rfl
  | .string _ | .integer _ | .float _ | .datetime _ | .array _ | .table _ => rfl

theorem arrayText_eq (items : List Value) : arrayText items = joinedText items := by
  unfold arrayText
  rw [funext scalarText_eq]
  induction items with
  | nil => rfl
  | cons item items ih =>
    cases items with
    | nil =>
      rw [List.mapM_cons, List.mapM_nil, joinedText]
      cases itemText item <;> rfl
    | cons next items =>
      rw [joinedText, ← ih, List.mapM_cons, List.mapM_cons]
      simp only [bind_assoc, pure_bind, String.intercalate_cons_cons]

/-- Puts leaves into a snapshot one after the other, under what the paths to them are called. -/
def putLeaves (name : List String → String) (snapshot : Snapshot) (leaves : List (List String × Value)) :
    Reply Snapshot :=
  leaves.foldlM (fun snapshot leaf => do return snapshot.withValue (name leaf.1) (← leafText leaf.2)) snapshot

theorem putLeaves_append (name : List String → String) (snapshot : Snapshot)
    (first later : List (List String × Value)) :
    putLeaves name snapshot (first ++ later) =
      (putLeaves name snapshot first).bind fun snapshot => putLeaves name snapshot later :=
  List.foldlM_append

theorem putLeaves_below (name : List String → String) (snapshot : Snapshot) (key : String)
    (leaves : List (List String × Value)) :
    putLeaves name snapshot (leaves.map fun leaf => (key :: leaf.1, leaf.2)) =
      putLeaves (fun path => name (key :: path)) snapshot leaves :=
  List.foldlM_map ..

mutual

theorem flattenValue_eq (snapshot : Snapshot) (key : String) :
    (value : Value) → flattenValue snapshot key value = putLeaves (below (some key)) snapshot (valuesBelow value)
  | .table entries => by
    unfold flattenValue valuesBelow
    exact flattenEntries_eq snapshot (some key) entries
  | .array items => by
    unfold flattenValue valuesBelow
    rw [arrayText_eq]
    exact (bind_pure _).symm
  | .string _ | .integer _ | .float _ | .boolean _ | .datetime _ => by
    unfold flattenValue valuesBelow
    rw [scalarText_eq]
    exact (bind_pure _).symm

theorem flattenEntries_eq (snapshot : Snapshot) (outer : Option String) :
    (entries : Entries) → flattenEntries snapshot outer entries = putLeaves (below outer) snapshot (valuesOf entries)
  | [] => by
    unfold flattenEntries valuesOf
    rfl
  | (key, value) :: entries => by
    have name : below (some (joinKey outer key)) = fun path => below outer (key :: path) :=
      funext (below_joinKey outer key)
    unfold flattenEntries valuesOf
    rw [flattenValue_eq, putLeaves_append, putLeaves_below, name]
    exact congrArg _ (funext fun snapshot => flattenEntries_eq snapshot outer entries)

end

/-- What leaves come to when they are put into an empty snapshot, one after the other. -/
def inserted (leaves : List (List String × Value)) : Reply Snapshot :=
  leaves.foldlM
    (fun snapshot leaf => (leafText leaf.2).map fun text => snapshot.put (Text.fold (leafKey leaf), text)) .empty

theorem flatten_eq (entries : Entries) : flatten entries = inserted (valuesOf entries) :=
  flattenEntries_eq .empty none entries

/-- The first panic of the writer over leaves. -/
def firstPanic? (leaves : List (List String × Value)) : Option Payload :=
  leaves.findSome? fun leaf => (leafText leaf.2).panic?

/-- The keys of leaves and their texts, as far as they have one. -/
def written (leaves : List (List String × Value)) : List (String × String) :=
  leaves.filterMap fun leaf => (leafText leaf.2).answer?.map fun text => (leafKey leaf, text)

theorem firstPanic?_eq_none_iff {leaves : List (List String × Value)} :
    firstPanic? leaves = none ↔ ∀ leaf ∈ leaves, ∃ text, leafText leaf.2 = .answered text := by
  unfold firstPanic?
  rw [List.findSome?_eq_none_iff]
  refine forall₂_congr fun leaf _ => ?_
  cases leafText leaf.2 with
  | answered text => simp [Reply.panic?]
  | panicked payload => simp [Reply.panic?]

theorem firstPanic?_eq_some_iff {leaves : List (List String × Value)} {payload : Payload} :
    firstPanic? leaves = some payload ↔ ∃ before leaf after, leaves = before ++ leaf :: after ∧
      (∀ earlier ∈ before, ∃ text, leafText earlier.2 = .answered text) ∧ leafText leaf.2 = .panicked payload := by
  have ends (leaf : List String × Value) :
      (leafText leaf.2).panic? = some payload ↔ leafText leaf.2 = .panicked payload := by
    cases leafText leaf.2 <;> simp [Reply.panic?]
  unfold firstPanic?
  rw [List.findSome?_eq_some_iff]
  constructor
  · rintro ⟨before, leaf, after, split, found, silent⟩
    exact ⟨before, leaf, after, split, firstPanic?_eq_none_iff.mp (List.findSome?_eq_none_iff.mpr silent),
      (ends leaf).mp found⟩
  · rintro ⟨before, leaf, after, split, texts, found⟩
    exact ⟨before, leaf, after, split, (ends leaf).mpr found,
      List.findSome?_eq_none_iff.mp (firstPanic?_eq_none_iff.mpr texts)⟩

/-- Leaves are put under the last text of each key, unless the writer panics over one. -/
theorem foldlM_put (leaves : List (List String × Value)) (snapshot : Snapshot) :
    leaves.foldlM (fun snapshot leaf =>
        (leafText leaf.2).map fun text => snapshot.put (Text.fold (leafKey leaf), text)) snapshot =
      match firstPanic? leaves with
      | some payload => .panicked payload
      | none => .answered
          ((written leaves).foldl (fun snapshot entry => snapshot.withValue entry.1 entry.2) snapshot) := by
  induction leaves generalizing snapshot with
  | nil => rfl
  | cons leaf leaves ih =>
    cases text : leafText leaf.2 with
    | answered words =>
      have first : firstPanic? (leaf :: leaves) = firstPanic? leaves := by simp [firstPanic?, text, Reply.panic?]
      have texts : written (leaf :: leaves) = (leafKey leaf, words) :: written leaves := by
        simp [written, text, Reply.answer?]
      rw [List.foldlM_cons, text, first, texts, List.foldl_cons]
      exact ih _
    | panicked payload =>
      have first : firstPanic? (leaf :: leaves) = some payload := by simp [firstPanic?, text, Reply.panic?]
      rw [List.foldlM_cons, text, first]
      rfl

theorem inserted_eq (leaves : List (List String × Value)) :
    inserted leaves = match firstPanic? leaves with
      | some payload => .panicked payload
      | none => .answered ((written leaves).foldl (fun snapshot entry => snapshot.withValue entry.1 entry.2) .empty) :=
  foldlM_put leaves .empty

theorem inserted_eq_panicked_iff {leaves : List (List String × Value)} {payload : Payload} :
    inserted leaves = .panicked payload ↔ firstPanic? leaves = some payload := by
  rw [inserted_eq]
  cases firstPanic? leaves <;> simp

theorem inserted_eq_answered_iff {leaves : List (List String × Value)} {snapshot : Snapshot} :
    inserted leaves = .answered snapshot ↔ firstPanic? leaves = none ∧
      snapshot = (written leaves).foldl (fun snapshot entry => snapshot.withValue entry.1 entry.2) .empty := by
  rw [inserted_eq]
  cases firstPanic? leaves <;> simp [eq_comm]

theorem inserted_canonical {leaves : List (List String × Value)} {snapshot : Snapshot}
    (made : inserted leaves = .answered snapshot) : snapshot.Canonical := by
  rw [(inserted_eq_answered_iff.mp made).2]
  exact Snapshot.canonical_empty.foldl _

theorem get?_inserted {leaves : List (List String × Value)} {snapshot : Snapshot}
    (made : inserted leaves = .answered snapshot) (key : String) :
    snapshot.get? key = Snapshot.latest (written leaves) key := by
  rw [(inserted_eq_answered_iff.mp made).2, Snapshot.get?_foldl]
  exact Option.or_none

end DfsClient.Config
