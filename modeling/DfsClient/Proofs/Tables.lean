import DfsClient.Table
import Mathlib.Data.List.Basic
import Mathlib.Data.List.Nodup

/-! What changes of a table keep: a property of all that is held, and the number of
things of a kind. -/

namespace DfsClient.Table

variable {α : Type}

def Each (holds : α → Prop) (table : Table α) : Prop :=
  ∀ name value, table.get? name = some value → holds value

def names (table : Table α) : List String := table.entries.map Prod.fst

def count (kind : α → Bool) (table : Table α) : Nat := table.entries.countP fun entry => kind entry.2

theorem put_lookup {entries : List (String × α)} {name : String} {value : α}
    (held : entries.lookup name = some value) : put entries name value = entries := by
  induction entries with
  | nil => cases held
  | cons entry rest ih =>
    obtain ⟨other, first⟩ := entry
    by_cases same : name = other
    · subst same
      simp only [List.lookup_cons_self, Option.some.injEq] at held
      simp [put, held]
    · rw [List.lookup_cons, beq_false_of_ne same] at held
      simp [put, same, ih held]

theorem put_put (entries : List (String × α)) (name : String) (first last : α) :
    put (put entries name first) name last = put entries name last := by
  induction entries with
  | nil => simp [put]
  | cons entry rest ih =>
    obtain ⟨other, held⟩ := entry
    by_cases same : name = other
    · simp [put, same]
    · simp [put, same, ih]

theorem update_update (table : Table α) (handle : Option String) (first last : α) :
    (table.update handle (some first)).update handle (some last) = table.update handle (some last) := by
  cases handle with
  | none => rfl
  | some name => exact congrArg Table.mk (put_put table.entries name first last)

theorem get?_update_same (table : Table α) (name : String) (value : Option α) :
    (table.update (some name) value).get? name = value := by
  cases value with
  | none => exact get?_erase_same table name
  | some value => exact get?_set_same table name value

theorem get?_update_other (table : Table α) {handle : Option String} {name : String} (value : Option α)
    (differ : handle ≠ some name) : (table.update handle value).get? name = table.get? name := by
  cases handle with
  | none => rfl
  | some other =>
    have apart : name ≠ other := fun same => differ (congrArg some same.symm)
    cases value with
    | none => exact get?_erase_other table apart
    | some value => exact get?_set_other table value apart

theorem get?_update_congr {one other : Table α} {name : String} (handle : Option String) (value : Option α)
    (same : one.get? name = other.get? name) :
    (one.update handle value).get? name = (other.update handle value).get? name := by
  by_cases here : handle = some name
  · subst here
    rw [get?_update_same, get?_update_same]
  · rw [get?_update_other one value here, get?_update_other other value here]
    exact same

theorem find?_congr {one other : Table α} {handle : Option String}
    (same : ∀ name, handle = some name → one.get? name = other.get? name) :
    one.find? handle = other.find? handle := by
  cases handle with
  | none => rfl
  | some name => exact same name rfl

theorem update_find? (table : Table α) (handle : Option String) :
    table.update handle (table.find? handle) = table := by
  cases handle with
  | none => rfl
  | some name =>
    change table.keep name (table.get? name) = table
    cases held : table.get? name with
    | some value => exact congrArg Table.mk (put_lookup held)
    | none =>
      refine congrArg Table.mk (List.filter_eq_self.mpr fun entry member => ?_)
      have other := List.lookup_eq_none_iff.mp held entry member
      simp only [bne_iff_ne, ne_eq]
      intro same
      simp [same] at other

namespace Each

variable {holds : α → Prop} {table : Table α}

theorem set (all : Each holds table) (name : String) {value : α} (good : holds value) :
    Each holds (table.set name value) := by
  intro other found there
  by_cases same : other = name
  · subst same
    rw [get?_set_same] at there
    cases there
    exact good
  · rw [get?_set_other _ _ same] at there
    exact all other found there

theorem erase (all : Each holds table) (name : String) : Each holds (table.erase name) := by
  intro other found there
  by_cases same : other = name
  · subst same
    rw [get?_erase_same] at there
    cases there
  · rw [get?_erase_other _ same] at there
    exact all other found there

theorem update (all : Each holds table) (handle : Option String) {value : Option α}
    (good : ∀ one, value = some one → holds one) : Each holds (table.update handle value) := by
  cases handle with
  | none => exact all
  | some name =>
    cases value with
    | some one => exact all.set name (good one rfl)
    | none => exact all.erase name

theorem find (all : Each holds table) {handle : Option String} {value : α}
    (found : table.find? handle = some value) : holds value := by
  cases handle with
  | none => cases found
  | some name => exact all name value found

end Each

theorem mem_names_put (entries : List (String × α)) (name : String) (value : α) (other : String) :
    other ∈ (put entries name value).map Prod.fst ↔ other = name ∨ other ∈ entries.map Prod.fst := by
  induction entries with
  | nil => simp [put]
  | cons entry rest ih =>
    obtain ⟨first, held⟩ := entry
    by_cases same : name = first
    · subst same
      simp [put]
    · simp only [put, same, ↓reduceIte, List.map_cons, List.mem_cons, ih]
      tauto

theorem nodup_put {entries : List (String × α)} (distinct : (entries.map Prod.fst).Nodup)
    (name : String) (value : α) : ((put entries name value).map Prod.fst).Nodup := by
  induction entries with
  | nil => simp [put]
  | cons entry rest ih =>
    obtain ⟨first, held⟩ := entry
    obtain ⟨absent, distinct⟩ := List.nodup_cons.mp distinct
    by_cases same : name = first
    · subst same
      simpa [put] using And.intro absent distinct
    · simp only [put, same, ↓reduceIte, List.map_cons, List.nodup_cons]
      refine ⟨fun member => ?_, ih distinct⟩
      cases (mem_names_put rest name value first).mp member with
      | inl here => exact same here.symm
      | inr there => exact absent there

/-- Names stay distinct, whatever they come to hold. -/
theorem nodup_update {table : Table α} (distinct : table.names.Nodup) (handle : Option String)
    (value : Option α) : (table.update handle value).names.Nodup := by
  cases handle with
  | none => exact distinct
  | some name =>
    cases value with
    | some one => exact nodup_put distinct name one
    | none => exact distinct.sublist ((List.filter_sublist).map Prod.fst)

theorem countP_entry (kind : α → Bool) (name : String) (value : α) (rest : List (String × α)) :
    ((name, value) :: rest).countP (fun entry => kind entry.2) =
      rest.countP (fun entry => kind entry.2) + (kind value).toNat := by
  rw [List.countP_cons]
  cases kind value <;> rfl

theorem count_set (kind : α → Bool) (table : Table α) (name : String) (value : α) :
    (table.set name value).count kind + ((table.get? name).elim 0 fun old => (kind old).toNat) =
      table.count kind + (kind value).toNat := by
  obtain ⟨entries⟩ := table
  simp only [count, set, get?]
  induction entries with
  | nil => exact countP_entry kind name value []
  | cons entry rest ih =>
    obtain ⟨first, held⟩ := entry
    by_cases same : name = first
    · subst same
      simp only [put, ↓reduceIte, countP_entry, List.lookup_cons_self, Option.elim_some]
      omega
    · rw [List.lookup_cons, beq_false_of_ne same]
      simp only [put, same, ↓reduceIte, countP_entry]
      omega

theorem count_erase (kind : α → Bool) {table : Table α} (distinct : table.names.Nodup) (name : String) :
    (table.erase name).count kind + ((table.get? name).elim 0 fun old => (kind old).toNat) =
      table.count kind := by
  obtain ⟨entries⟩ := table
  simp only [count, erase, get?, names] at distinct ⊢
  induction entries with
  | nil => rfl
  | cons entry rest ih =>
    obtain ⟨first, held⟩ := entry
    obtain ⟨absent, distinct⟩ := List.nodup_cons.mp distinct
    by_cases same : name = first
    · subst same
      have gone : rest.filter (fun entry => entry.1 != name) = rest := by
        refine List.filter_eq_self.mpr fun entry member => ?_
        simp only [bne_iff_ne, ne_eq]
        intro same
        exact absent (List.mem_map.mpr ⟨entry, member, same⟩)
      rw [List.filter_cons_of_neg (by simp), gone, List.lookup_cons_self, countP_entry, Option.elim_some]
    · have kept : (first != name) = true := bne_iff_ne.mpr (Ne.symm same)
      rw [List.filter_cons, if_pos kept, List.lookup_cons, beq_false_of_ne same, countP_entry, countP_entry]
      have counted := ih distinct
      dsimp only at counted ⊢
      omega

/-- What is held no longer when a handle comes to hold something else. What a null handle is
given is held no longer at once. -/
def surplus (table : Table α) (handle : Option String) (value : Option α) : Option α :=
  match handle with
  | some name => table.get? name
  | none => value

theorem count_update (kind : α → Bool) {table : Table α} (distinct : table.names.Nodup)
    (handle : Option String) (value : Option α) :
    (table.update handle value).count kind +
        ((table.surplus handle value).elim 0 fun old => (kind old).toNat) =
      table.count kind + value.elim 0 fun new => (kind new).toNat := by
  cases handle with
  | none => rfl
  | some name =>
    cases value with
    | some new => exact count_set kind table name new
    | none => exact count_erase kind distinct name

theorem get?_of_mem {table : Table α} (distinct : table.names.Nodup) {name : String} {value : α}
    (member : (name, value) ∈ table.entries) : table.get? name = some value := by
  obtain ⟨entries⟩ := table
  simp only [names, get?] at distinct member ⊢
  induction entries with
  | nil => cases member
  | cons entry rest ih =>
    obtain ⟨absent, distinct⟩ := List.nodup_cons.mp distinct
    cases List.mem_cons.mp member with
    | inl first =>
      subst first
      exact List.lookup_cons_self
    | inr later =>
      have other : name ≠ entry.1 := by
        rintro rfl
        exact absent (List.mem_map.mpr ⟨_, later, rfl⟩)
      rw [List.lookup_cons, beq_false_of_ne other]
      exact ih distinct later

theorem count_eq_zero {kind : α → Bool} {table : Table α} (distinct : table.names.Nodup)
    (none : table.Each fun value => kind value = false) : table.count kind = 0 := by
  refine List.countP_eq_zero.mpr fun entry member => ?_
  have other := none entry.1 entry.2 (get?_of_mem distinct member)
  rw [other]
  exact Bool.false_ne_true

variable {β : Type}

def map (f : α → β) (table : Table α) : Table β := ⟨table.entries.map fun entry => (entry.1, f entry.2)⟩

theorem map_update (f : α → β) (table : Table α) (handle : Option String) (value : Option α) :
    (table.update handle value).map f = (table.map f).update handle (value.map f) := by
  obtain ⟨entries⟩ := table
  cases handle with
  | none => rfl
  | some name =>
    cases value with
    | none =>
      simp only [update, keep, erase, map, Option.map_none, List.filter_map]
      rfl
    | some new =>
      refine congrArg Table.mk ?_
      change (put entries name new).map _ = put (entries.map _) name (f new)
      induction entries with
      | nil => rfl
      | cons entry rest ih =>
        obtain ⟨first, held⟩ := entry
        by_cases same : name = first
        · simp [put, same]
        · simp [put, same, ih]

theorem get?_map (f : α → β) (table : Table α) (name : String) :
    (table.map f).get? name = (table.get? name).map f := by
  obtain ⟨entries⟩ := table
  simp only [get?, map]
  induction entries with
  | nil => rfl
  | cons entry rest ih =>
    obtain ⟨first, held⟩ := entry
    by_cases same : name = first
    · subst same
      rw [List.map_cons, List.lookup_cons_self, List.lookup_cons_self]
      rfl
    · rw [List.map_cons, List.lookup_cons, List.lookup_cons, beq_false_of_ne same]
      exact ih

theorem find?_map (f : α → β) (table : Table α) (handle : Option String) :
    (table.map f).find? handle = (table.find? handle).map f := by
  cases handle with
  | none => rfl
  | some name => exact get?_map f table name

theorem count_map (f : α → β) (kind : β → Bool) (table : Table α) :
    (table.map f).count kind = table.count fun value => kind (f value) :=
  List.countP_map

end DfsClient.Table
