import DfsClient.Proofs.SnapshotLookup

/-! Laws of snapshots. Values that are put under one key replace each other and those under
different keys commute, in any snapshot. A snapshot whose keys are folded and in order is no more
than what it holds under each key. -/

namespace DfsClient

namespace Text

theorem isUpper_toLower (c : Char) : c.toLower.isUpper = false := by
  by_cases upper : c.val ≥ 'A'.val ∧ c.val ≤ 'Z'.val
  · have shifted : c.toLower = ⟨c.val + ('a'.val - 'A'.val), _⟩ := dif_pos upper
    have moved : c.toLower.val = c.val + 32 := congrArg Char.val shifted
    refine decide_eq_false fun ⟨_, behind⟩ => ?_
    obtain ⟨least, most⟩ := upper
    rw [moved] at behind
    change (65 : UInt32) ≤ c.val at least
    change c.val ≤ 90 at most
    change c.val + 32 ≤ 90 at behind
    rw [UInt32.le_iff_toNat_le] at least most behind
    rw [UInt32.toNat_add] at behind
    simp only [UInt32.reduceToNat] at least most behind
    omega
  · have same : c.toLower = c := dif_neg upper
    rw [same]
    exact decide_eq_false upper

theorem toLower_toLower (c : Char) : c.toLower.toLower = c.toLower :=
  dif_neg (of_decide_eq_false (isUpper_toLower c))

theorem fold_fold (text : String) : fold (fold text) = fold text := by
  rw [fold, toList_fold, List.map_map]
  exact congrArg String.ofList (List.map_congr_left fun c _ => toLower_toLower c)

end Text

namespace Snapshot

theorem place_same (key first last : String) (entries : List (String × String)) :
    place key last (place key first entries) = place key last entries := by
  induction entries with
  | nil => simp [place]
  | cons head rest ih =>
    obtain ⟨other, held⟩ := head
    rcases lt_trichotomy key other with before | same | behind
    · simp [place, before]
    · simp [place, same]
    · simp [place, behind.not_gt, behind.ne', ih]

theorem place_comm {one other : String} (apart : one ≠ other) (first second : String)
    (entries : List (String × String)) :
    place one first (place other second entries) = place other second (place one first entries) := by
  wlog before : one < other generalizing one other first second with sym
  · exact (sym apart.symm second first (lt_of_le_of_ne (not_lt.mp before) apart.symm)).symm
  induction entries with
  | nil => simp [place, before, before.not_gt, before.ne']
  | cons head rest ih =>
    obtain ⟨key, held⟩ := head
    rcases lt_trichotomy other key with ahead | same | behind
    · simp [place, before, before.not_gt, before.ne', ahead, before.trans ahead]
    · subst same
      simp [place, before, before.not_gt, before.ne']
    · rcases lt_trichotomy one key with ahead | same | behind'
      · simp [place, ahead, before.not_gt, before.ne', behind.not_gt, behind.ne']
      · subst same
        simp [place, before.not_gt, before.ne']
      · simp [place, behind.not_gt, behind.ne', behind'.not_gt, behind'.ne', ih]

theorem withValue_same (snapshot : Snapshot) {key again : String} (same : Text.fold key = Text.fold again)
    (first last : String) :
    (snapshot.withValue key first).withValue again last = snapshot.withValue again last := by
  unfold withValue put
  rw [same, place_same]

theorem withValue_comm (snapshot : Snapshot) {one other : String} (apart : Text.fold one ≠ Text.fold other)
    (first second : String) :
    (snapshot.withValue one first).withValue other second =
      (snapshot.withValue other second).withValue one first := by
  unfold withValue put
  rw [place_comm apart.symm]

/-- Keys are folded and come in order. -/
structure Canonical (snapshot : Snapshot) : Prop where
  ordered : snapshot.Ordered
  folded : ∀ entry ∈ snapshot.entries, Text.fold entry.1 = entry.1

theorem canonical_empty : Canonical empty := ⟨ordered_empty, fun _ => nofun⟩

namespace Canonical

variable {snapshot newer : Snapshot}

theorem put (canonical : Canonical snapshot) {entry : String × String} (folded : Text.fold entry.1 = entry.1) :
    Canonical (snapshot.put entry) where
  ordered := pairwise_place canonical.ordered ..
  folded other member := by
    rcases mem_place member with same | there
    · rw [same, folded]
    · exact canonical.folded other there

theorem withValue (canonical : Canonical snapshot) (key value : String) : Canonical (snapshot.withValue key value) :=
  canonical.put (Text.fold_fold key)

theorem foldl (canonical : Canonical snapshot) (entries : List (String × String)) :
    Canonical (entries.foldl (fun snapshot entry => snapshot.withValue entry.1 entry.2) snapshot) := by
  induction entries generalizing snapshot with
  | nil => exact canonical
  | cons entry rest ih => exact ih (canonical.withValue ..)

theorem overlaidWith (canonical : Canonical snapshot) (above : Canonical newer) :
    Canonical (snapshot.overlaidWith newer) := by
  have laid (entries : List (String × String)) (folded : ∀ entry ∈ entries, Text.fold entry.1 = entry.1)
      {base : Snapshot} (canonical : Canonical base) : Canonical (entries.foldl Snapshot.put base) := by
    induction entries generalizing base with
    | nil => exact canonical
    | cons entry rest ih =>
      obtain ⟨first, later⟩ := List.forall_mem_cons.mp folded
      exact ih later (canonical.put first)
  exact laid newer.entries above.folded canonical

theorem mem_iff (canonical : Canonical snapshot) {key value : String} :
    (key, value) ∈ snapshot.entries ↔ Text.fold key = key ∧ snapshot.get? key = some value := by
  constructor
  · intro member
    have folded : Text.fold key = key := canonical.folded (key, value) member
    refine ⟨folded, ?_⟩
    obtain ⟨before, after, split⟩ := List.append_of_mem member
    have ordered := canonical.ordered
    rw [Ordered, split, List.pairwise_append] at ordered
    obtain ⟨-, -, lower⟩ := ordered
    rw [get?, folded, List.lookup_eq_some_iff]
    refine ⟨before, after, split, fun entry there => ?_⟩
    exact bne_iff_ne.mpr (lower entry there (key, value) List.mem_cons_self).ne'
  · rintro ⟨folded, held⟩
    rw [get?, folded, List.lookup_eq_some_iff] at held
    obtain ⟨before, after, split, -⟩ := held
    rw [split]
    exact List.mem_append_right _ List.mem_cons_self

/-- What is held under each key makes the snapshot. -/
theorem ext (canonical : Canonical snapshot) (canonical' : Canonical newer)
    (alike : ∀ key, snapshot.get? key = newer.get? key) : snapshot = newer := by
  have nodup {snapshot : Snapshot} (canonical : Canonical snapshot) : snapshot.entries.Nodup :=
    canonical.ordered.imp fun {one other} before same => (same ▸ before).false
  have members (entry : String × String) : entry ∈ snapshot.entries ↔ entry ∈ newer.entries := by
    rw [canonical.mem_iff, canonical'.mem_iff, alike]
  have perm : snapshot.entries.Perm newer.entries :=
    (List.perm_ext_iff_of_nodup (nodup canonical) (nodup canonical')).mpr members
  have same : snapshot.entries = newer.entries :=
    perm.eq_of_pairwise (fun one other _ _ before after => (before.trans after).false.elim) canonical.ordered
      canonical'.ordered
  exact congrArg Snapshot.mk same

/-- Laying what was put into an empty snapshot over another one is putting it there. -/
theorem overlaidWith_foldl (canonical : Canonical snapshot) (entries : List (String × String)) :
    snapshot.overlaidWith (entries.foldl (fun snapshot entry => snapshot.withValue entry.1 entry.2) empty) =
      entries.foldl (fun snapshot entry => snapshot.withValue entry.1 entry.2) snapshot := by
  have above := canonical_empty.foldl entries
  refine (canonical.overlaidWith above).ext (canonical.foldl entries) fun key => ?_
  rw [get?_overlaidWith snapshot above.ordered, get?_foldl, get?_foldl]
  exact congrArg (Option.or · _) Option.or_none

end Canonical
end Snapshot
end DfsClient
