/-! Tables of things held under names, in the order in which the names were
first used. -/

namespace DfsClient

structure Table (α : Type) where
  entries : List (String × α) := []

namespace Table

variable {α : Type}

def get? (table : Table α) (name : String) : Option α := table.entries.lookup name

def put : List (String × α) → String → α → List (String × α)
  | [], name, value => [(name, value)]
  | (other, held) :: rest, name, value =>
    if name = other then (name, value) :: rest else (other, held) :: put rest name value

def set (table : Table α) (name : String) (value : α) : Table α := ⟨put table.entries name value⟩

def erase (table : Table α) (name : String) : Table α :=
  ⟨table.entries.filter fun entry => entry.1 != name⟩

/-- What a handle stands for. The null handle stands for nothing. -/
def find? (table : Table α) (handle : Option String) : Option α := handle.bind table.get?

def keep (table : Table α) (name : String) : Option α → Table α
  | some value => table.set name value
  | none => table.erase name

def update (table : Table α) (handle : Option String) (value : Option α) : Table α :=
  match handle with
  | some name => table.keep name value
  | none => table

theorem lookup_put_same (entries : List (String × α)) (name : String) (value : α) :
    (put entries name value).lookup name = some value := by
  induction entries with
  | nil => simp [put]
  | cons entry rest ih =>
    obtain ⟨other, held⟩ := entry
    by_cases same : name = other
    · simp [put, same]
    · simp [put, same, List.lookup_cons, ih, beq_false_of_ne same]

theorem lookup_put_other (entries : List (String × α)) {name asked : String} (value : α)
    (differ : asked ≠ name) : (put entries name value).lookup asked = entries.lookup asked := by
  induction entries with
  | nil => simp [put, List.lookup_cons, beq_false_of_ne differ]
  | cons entry rest ih =>
    obtain ⟨other, held⟩ := entry
    by_cases same : name = other
    · subst same
      simp [put, List.lookup_cons, beq_false_of_ne differ]
    · simp [put, same, List.lookup_cons, ih]

theorem get?_set_same (table : Table α) (name : String) (value : α) :
    (table.set name value).get? name = some value := lookup_put_same ..

theorem get?_set_other (table : Table α) {name asked : String} (value : α) (differ : asked ≠ name) :
    (table.set name value).get? asked = table.get? asked := lookup_put_other _ _ differ

theorem get?_erase_same (table : Table α) (name : String) : (table.erase name).get? name = none := by
  simp only [get?, erase, List.lookup_eq_none_iff, List.mem_filter, bne_iff_ne]
  intro entry member
  simpa using fun same : name = entry.1 => member.2 same.symm

theorem get?_erase_other (table : Table α) {name asked : String} (differ : asked ≠ name) :
    (table.erase name).get? asked = table.get? asked := by
  obtain ⟨entries⟩ := table
  simp only [get?, erase]
  induction entries with
  | nil => rfl
  | cons entry rest ih =>
    obtain ⟨other, held⟩ := entry
    by_cases same : other = name
    · subst same
      simp [List.lookup_cons, beq_false_of_ne differ, ih]
    · simp [same, List.lookup_cons, ih]

end Table
end DfsClient
