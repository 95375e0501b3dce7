import DfsClient.Formats.Standard
import DfsClient.Proofs.Confinement

/-! Search paths as lists in text form. A text lists the pieces between its colons that are not empty, so that texts
joined by a colon list what the one and then the other lists, and further colons make no difference. A resource is
looked for from the front, so that directories that come to the end do not change what is found. -/

namespace DfsClient.Config

/-- A name that a list can hold. -/
def Listable (name : String) : Prop := name ≠ "" ∧ ':' ∉ name.toList

def colons (count : Nat) : String := String.ofList (List.replicate count ':')

/-- Names in a list, each with the number of colons behind it beyond the one that separates it from the next, and
colons in front of them all. -/
def spelling (before : Nat) (entries : List (String × Nat)) : String :=
  colons before ++ ":".intercalate (entries.map fun entry => entry.1 ++ colons entry.2)

theorem colons_zero : colons 0 = "" := rfl

theorem colons_succ (count : Nat) : colons (count + 1) = ":" ++ colons count := String.ofList_cons

theorem colons_succ' (count : Nat) : colons (count + 1) = colons count ++ ":" := by
  unfold colons
  rw [List.replicate_succ', String.ofList_append]

theorem spelling_nil (before : Nat) : spelling before [] = colons before := String.append_empty

theorem spelling_singleton (name : String) (after : Nat) : spelling 0 [(name, after)] = name ++ colons after :=
  String.empty_append.trans String.intercalate_singleton

theorem colon_append_spelling (before : Nat) (entries : List (String × Nat)) :
    ":" ++ spelling before entries = spelling (before + 1) entries := by
  rw [spelling, spelling, colons_succ, String.append_assoc]

/-- Colons in front of a list belong to a name that is put before it. -/
theorem append_colon_spelling (name : String) (before : Nat) (entries : List (String × Nat)) :
    ∃ after, name ++ ":" ++ spelling before entries = spelling 0 ((name, after) :: entries) := by
  cases entries with
  | nil =>
    refine ⟨before + 1, ?_⟩
    rw [spelling_nil, spelling_singleton, colons_succ, String.append_assoc]
  | cons next rest =>
    refine ⟨before, ?_⟩
    have whole : spelling 0 ((name, before) :: next :: rest) =
        name ++ colons before ++ ":" ++ ":".intercalate ((next :: rest).map fun entry => entry.1 ++ colons entry.2) :=
      String.empty_append.trans String.intercalate_cons_cons
    rw [whole, spelling, String.append_assoc, ← @String.append_assoc ":", ← colons_succ, colons_succ']
    simp only [String.append_assoc]

namespace SearchPath

theorem listed_empty : listed "" = [] := listed_eq ""

theorem listed_append_colon (one other : String) : listed (one ++ ":" ++ other) = listed one ++ listed other := by
  have joined : (one ++ ":" ++ other).toList = one.toList ++ ':' :: other.toList := by
    rw [String.toList_append, String.toList_append, List.append_assoc]
    rfl
  rw [listed_eq, listed_eq, listed_eq, joined, List.splitOn_append_cons_self, List.filter_append, List.map_append]

theorem listed_colon_append (text : String) : listed (":" ++ text) = listed text :=
  listed_append_colon "" text

/-- Colons in front list nothing. -/
theorem listed_colons_append (count : Nat) (text : String) : listed (colons count ++ text) = listed text := by
  induction count with
  | zero => rw [colons_zero, String.empty_append]
  | succ count ih => rw [colons_succ, String.append_assoc, listed_colon_append, ih]

/-- Nor do colons behind. -/
theorem listed_append_colons (text : String) (count : Nat) : listed (text ++ colons count) = listed text := by
  cases count with
  | zero => rw [colons_zero, String.append_empty]
  | succ count =>
    have nothing : listed (colons count) = [] := by
      have alone := listed_colons_append count ""
      rwa [String.append_empty, listed_empty] at alone
    rw [colons_succ, ← String.append_assoc, listed_append_colon, nothing, List.append_nil]

theorem listed_intercalate (texts : List String) : listed (":".intercalate texts) = texts.flatMap listed := by
  induction texts with
  | nil => exact listed_empty
  | cons text rest ih =>
    cases rest with
    | nil => rw [String.intercalate_singleton, List.flatMap_singleton]
    | cons next rest =>
      rw [String.intercalate_cons_cons, listed_append_colon, ih]
      exact List.flatMap_cons.symm

/-- Names are listed by any spelling of them. -/
theorem listed_spelling {entries : List (String × Nat)} (listable : ∀ entry ∈ entries, Listable entry.1)
    (before : Nat) : listed (spelling before entries) = entries.map Prod.fst := by
  have alone (entry : String × Nat) (member : entry ∈ entries) :
      listed (entry.1 ++ colons entry.2) = [entry.1] := by
    obtain ⟨named, plain⟩ := listable entry member
    rw [listed_append_colons, listed_plain named plain]
  rw [spelling, listed_colons_append, listed_intercalate, List.flatMap_map, List.flatMap_congr alone,
    ← List.map_eq_flatMap]

theorem plain_of_mem_pieces {cs piece : List Char} (member : piece ∈ pieces cs) : ':' ∉ piece := by
  induction cs generalizing piece with
  | nil =>
    rw [List.mem_singleton.mp member]
    exact List.not_mem_nil
  | cons c cs ih =>
    rw [pieces] at member
    split at member
    · obtain rfl | later := List.mem_cons.mp member
      · exact List.not_mem_nil
      · exact ih later
    next other =>
      split at member
      · rw [List.mem_singleton.mp member, List.mem_singleton]
        exact Ne.symm other
      next first rest split =>
        rw [split] at ih
        obtain rfl | later := List.mem_cons.mp member
        · exact List.not_mem_cons_of_ne_of_not_mem (Ne.symm other) (ih List.mem_cons_self)
        · exact ih (List.mem_cons_of_mem _ later)

theorem listable_of_mem_listed {text name : String} (member : name ∈ listed text) : Listable name := by
  obtain ⟨piece, kept, rfl⟩ := List.mem_map.mp member
  obtain ⟨there, nonempty⟩ := List.mem_filter.mp kept
  refine ⟨fun empty => ?_, ?_⟩
  · exact bne_iff_ne.mp nonempty (String.ofList_eq_empty_iff.mp empty)
  · rw [String.toList_ofList]
    exact plain_of_mem_pieces there

theorem intercalate_pieces (text : String) : ":".intercalate ((pieces text.toList).map String.ofList) = text := by
  have kept : String.toList ∘ String.ofList = id := funext fun _ => String.toList_ofList
  rw [← String.toList_inj, String.toList_intercalate, List.map_map, pieces_eq_splitOn, kept, List.map_id]
  exact List.intercalate_splitOn ':'

/-- Pieces between colons are names with colons between them, where an empty piece is one colon more. -/
theorem exists_spelling (pieces : List (List Char)) :
    ∃ before entries, ":".intercalate (pieces.map String.ofList) = spelling before entries ∧
      entries.map Prod.fst = (pieces.filter (· != [])).map String.ofList := by
  induction pieces with
  | nil => exact ⟨0, [], rfl, rfl⟩
  | cons piece rest ih =>
    obtain ⟨before, entries, same, names⟩ := ih
    by_cases empty : piece = []
    · subst empty
      cases rest with
      | nil => exact ⟨0, [], rfl, rfl⟩
      | cons next rest =>
        refine ⟨before + 1, entries, ?_, names⟩
        rw [← colon_append_spelling, ← same]
        exact String.intercalate_cons_cons
    · have kept : (piece :: rest).filter (· != []) = piece :: rest.filter (· != []) :=
        List.filter_cons_of_pos (bne_iff_ne.mpr empty)
      rw [kept, List.map_cons]
      cases rest with
      | nil =>
        refine ⟨0, [(String.ofList piece, 0)], ?_, rfl⟩
        exact String.intercalate_singleton.trans ((spelling_singleton _ 0).trans String.append_empty).symm
      | cons next rest =>
        obtain ⟨after, put⟩ := append_colon_spelling (String.ofList piece) before entries
        refine ⟨0, (String.ofList piece, after) :: entries, ?_, congrArg (_ :: ·) names⟩
        rw [← put, ← same]
        exact String.intercalate_cons_cons

theorem listed_eq_iff {text : String} {names : List String} :
    listed text = names ↔ (∀ name ∈ names, Listable name) ∧
      ∃ before entries, text = spelling before entries ∧ entries.map Prod.fst = names := by
  constructor
  · rintro rfl
    obtain ⟨before, entries, same, names⟩ := exists_spelling (pieces text.toList)
    rw [intercalate_pieces] at same
    exact ⟨fun _ => listable_of_mem_listed, before, entries, same, names⟩
  · rintro ⟨listable, before, entries, rfl, rfl⟩
    exact listed_spelling (List.forall_mem_map.mp listable) before

/-- What is done to a search path by those who name directories in a list. -/
inductive Edit where
  | set (text : String)
  | add (text : String)

def edit (path : SearchPath) : Edit → SearchPath
  | .set text => path.set text
  | .add text => path.add text

/-- The text that lists a path after an edit, where this one listed it before. -/
def Edit.spell (text : String) : Edit → String
  | .set other => other
  | .add other => text ++ ":" ++ other

theorem add_set (path : SearchPath) (one other : String) :
    (path.set one).add other = path.set (one ++ ":" ++ other) :=
  congrArg SearchPath.mk (listed_append_colon one other).symm

theorem edit_set (path : SearchPath) (text : String) (next : Edit) :
    (path.set text).edit next = path.set (next.spell text) := by
  cases next with
  | set other => rfl
  | add other => exact path.add_set text other

/-- From the first list on, a path is always what some text lists. -/
theorem edits_set (path : SearchPath) (text : String) (edits : List Edit) :
    edits.foldl edit (path.set text) = path.set (edits.foldl Edit.spell text) := by
  induction edits generalizing text with
  | nil => rfl
  | cons next rest ih => rw [List.foldl_cons, List.foldl_cons, edit_set, ih]

/-- A directory with a regular file of this name, also one that cannot be read. -/
def Holds (tree : FileTree) (name directory : String) : Prop :=
  (∃ bytes, tree.at? (joinPath directory name) = .file bytes) ∨ tree.at? (joinPath directory name) = .refusing

variable {path : SearchPath} {tree : FileTree} {name file : String}

theorem isFile_iff {place : String} :
    isFile tree place = true ↔ (∃ bytes, tree.at? place = .file bytes) ∨ tree.at? place = .refusing := by
  unfold isFile
  cases tree.at? place with
  | file bytes => exact iff_of_true rfl (.inl ⟨bytes, rfl⟩)
  | refusing => exact iff_of_true rfl (.inr rfl)
  | directory | missing | notDirectory =>
    refine iff_of_false nofun ?_
    rintro (⟨_, file⟩ | refusing)
    · cases file
    · cases refusing

/-- The first directory with such a file decides. -/
theorem find?_eq_some_iff :
    path.find? tree name = some file ↔ ∃ before directory after, path.directories = before ++ directory :: after ∧
      Holds tree name directory ∧ (∀ earlier ∈ before, ¬Holds tree name earlier) ∧ file = joinPath directory name := by
  unfold find?
  rw [List.find?_map, Option.map_eq_some_iff]
  simp only [List.find?_eq_some_iff_append, Function.comp_apply, isFile_iff, Bool.not_eq_true', ← Bool.not_eq_true]
  constructor
  · rintro ⟨directory, ⟨holds, before, after, listed, without⟩, rfl⟩
    exact ⟨before, directory, after, listed, holds, without, rfl⟩
  · rintro ⟨before, directory, after, listed, holds, without, rfl⟩
    exact ⟨directory, ⟨holds, before, after, listed, without⟩, rfl⟩

/-- Directories that are added are looked into only if none before them has the file. -/
theorem find?_add (text : String) :
    (path.add text).find? tree name = (path.find? tree name).or ((path.set text).find? tree name) := by
  unfold find? add set
  rw [List.map_append, List.find?_append]

theorem find?_add_found (text : String) (found : path.find? tree name = some file) :
    (path.add text).find? tree name = some file := by
  rw [find?_add, found, Option.or]

/-- Where every resource is found, what is loaded does not depend on directories that are added. -/
theorem loadDefaults_add [Formats] (text : String)
    (found : ∀ resource ∈ defaultResources, (path.find? tree resource).isSome) :
    loadDefaults tree (path.add text) = loadDefaults tree path := by
  refine layer_congr (fun resource member => ?_) (fun _ _ _ _ => rfl) {}
  obtain ⟨file, copy⟩ := Option.isSome_iff_exists.mp (found resource member)
  rw [copy, find?_add_found text copy]

/-- A list that is set and a list that is added make the path of the two joined by a colon, and so on for whatever is
set and added later. The path is the pieces between colons that are not empty, and a path of names comes from just the
texts that have these names with colons between them, as many as one likes there and in front and behind. A resource
is found in the first directory that has it; directories that are added do not change where it is found, nor what is
loaded if no resource is missing. -/
theorem search_lists_compose [Formats] (path : SearchPath) :
    (∀ one other, (path.set one).add other = path.set (one ++ ":" ++ other)) ∧
    (∀ text edits, List.foldl edit (path.set text) edits = SearchPath.set {} (edits.foldl Edit.spell text)) ∧
    (∀ text, (path.set text).directories = ((text.toList.splitOn ':').filter (· != [])).map String.ofList) ∧
    (∀ text names, (path.set text).directories = names ↔ (∀ name ∈ names, Listable name) ∧
      ∃ before entries, text = spelling before entries ∧ entries.map Prod.fst = names) ∧
    ∀ tree,
      (∀ name file, path.find? tree name = some file ↔ ∃ before directory after,
        path.directories = before ++ directory :: after ∧ Holds tree name directory ∧
          (∀ earlier ∈ before, ¬Holds tree name earlier) ∧ file = joinPath directory name) ∧
      (∀ name file, path.find? tree name = some file → ∀ text, (path.add text).find? tree name = some file) ∧
      ((∀ resource ∈ defaultResources, (path.find? tree resource).isSome) → ∀ text,
        loadDefaults tree (path.add text) = loadDefaults tree path) :=
  ⟨path.add_set, path.edits_set, listed_eq, fun _ _ => listed_eq_iff, fun _ =>
    ⟨fun _ _ => find?_eq_some_iff, fun _ _ found text => find?_add_found text found,
      fun found text => loadDefaults_add text found⟩⟩

/-- A resource in two directories. -/
def twoCopies : FileTree :=
  ⟨fun path => if path = "b/core-site.toml" ∨ path = "c/core-site.toml" then .file [] else .missing⟩

open scoped Formats.Standard

/-- The copy in the second directory of the list is found, also when the other directory is added. -/
theorem earlier_copy_is_kept :
    let path := SearchPath.set {} ":a::b"
    path.directories = ["a", "b"] ∧ path.add "c:" = SearchPath.set {} ":a::b:c:" ∧
      path.find? twoCopies "core-site.toml" = some "b/core-site.toml" ∧
      (path.add "c:").find? twoCopies "core-site.toml" = some "b/core-site.toml" := by
  intro path
  obtain ⟨joins, -, -, lists, -⟩ := search_lists_compose {}
  obtain ⟨-, -, -, -, finds⟩ := search_lists_compose path
  obtain ⟨first, kept, -⟩ := finds twoCopies
  have directories : path.directories = ["a", "b"] :=
    (lists ":a::b" ["a", "b"]).mpr
      ⟨List.forall_mem_cons.mpr ⟨⟨by decide, by decide⟩, List.forall_mem_singleton.mpr ⟨by decide, by decide⟩⟩,
        1, [("a", 1), ("b", 0)], by decide, rfl⟩
  have found : path.find? twoCopies "core-site.toml" = some "b/core-site.toml" := by
    refine (first "core-site.toml" _).mpr ⟨["a"], "b", [], directories, .inl ⟨[], by decide⟩, ?_, by decide⟩
    intro earlier member holds
    have missing : twoCopies.at? (joinPath "a" "core-site.toml") = .missing := by decide
    rw [Holds, List.mem_singleton.mp member, missing] at holds
    obtain ⟨_, file⟩ | refusing := holds
    · cases file
    · cases refusing
  exact ⟨directories, joins ":a::b" "c:", found, kept _ _ found "c:"⟩

end SearchPath
end DfsClient.Config
