import DfsClient.Formats.Standard
import DfsClient.Proofs.Builders
import DfsClient.Proofs.Confinement
import DfsClient.Proofs.Layering

/-! The default search path. Its directories are the named entries of one variable, one directory below the other
if that is set, and a fixed one. Where all that is named starts at the root, files below the current directory make
no difference to a program; but a home that is set to nothing names a directory below the current one. -/

namespace DfsClient.Config

/-- A path that starts at the root. -/
def IsAbsolute (path : String) : Prop := path.toList.head? = some '/'

instance (path : String) : Decidable (IsAbsolute path) := inferInstanceAs (Decidable (_ = _))

theorem joinPath_root {name : String} (root : IsAbsolute name) (directory : String) : joinPath directory name = name :=
  if_pos root

/-- A name that does not start at the root is found where its directory is. -/
theorem isAbsolute_joinPath {name : String} (relative : ¬IsAbsolute name) (directory : String) :
    IsAbsolute (joinPath directory name) ↔ IsAbsolute directory := by
  have front (rest : String) (named : directory ≠ "") : IsAbsolute (directory ++ rest) ↔ IsAbsolute directory := by
    have kept : directory.toList ≠ [] := mt String.toList_eq_nil_iff.mp named
    unfold IsAbsolute
    rw [String.toList_append, List.head?_append_of_ne_nil _ kept]
  have joined : joinPath directory name =
      if directory = "" then name
      else if directory.toList.getLast? = some '/' then directory ++ name
      else directory ++ "/" ++ name := if_neg relative
  rw [joined]
  by_cases empty : directory = ""
  · rw [if_pos empty, empty]
    exact iff_of_false relative (by decide)
  · rw [if_neg empty]
    split
    · exact front name empty
    · rw [String.append_assoc]
      exact front _ empty

theorem joinPath_absolute {directory : String} (absolute : IsAbsolute directory) (name : String) :
    IsAbsolute (joinPath directory name) := by
  by_cases root : IsAbsolute name
  · rw [joinPath_root root]
    exact root
  · exact (isAbsolute_joinPath root directory).mpr absolute

/-- What stands between the colons of the list of directories, empty pieces included. -/
def Variables.entries (environment : Variables) : List (List Char) :=
  (environment.configDirectories.map fun text => text.toList.splitOn ':').getD []

variable {environment : Variables}

theorem directories_entries (environment : Variables) :
    directories environment = (environment.entries.filter (· != [])).map String.ofList ++
      (environment.home.map fun home => joinPath (joinPath home "etc") "hadoop").toList ++ ["/etc/hadoop/conf"] := by
  unfold directories Variables.entries
  cases environment.configDirectories <;> rfl

/-- The default directories start at the root exactly if all do that the variables name. A home that is set to
nothing does not. -/
theorem directories_absolute_iff :
    (∀ directory ∈ directories environment, IsAbsolute directory) ↔
      (∀ entry ∈ environment.entries, entry ≠ [] → entry.head? = some '/') ∧
        ∀ home, environment.home = some home → IsAbsolute home := by
  have below (home : String) : IsAbsolute (joinPath (joinPath home "etc") "hadoop") ↔ IsAbsolute home :=
    (isAbsolute_joinPath (by decide) _).trans (isAbsolute_joinPath (by decide) _)
  rw [directories_entries, List.forall_mem_append, List.forall_mem_append, List.forall_mem_map, List.forall_mem_singleton,
    and_iff_left (by decide : IsAbsolute "/etc/hadoop/conf")]
  refine and_congr ?_ ?_
  · refine forall_congr' fun entry => ?_
    rw [List.mem_filter, bne_iff_ne, and_imp, IsAbsolute, String.toList_ofList]
  · cases environment.home with
    | none => simp
    | some home => simp [below]

/-- Where only empty pieces are named and no home is set, the path is as without variables. -/
theorem directories_unnamed (empty : ∀ entry ∈ environment.entries, entry = []) (homeless : environment.home = none) :
    directories environment = directories {} := by
  have unlisted : environment.entries.filter (· != []) = [] := by
    rw [List.filter_eq_nil_iff]
    intro entry member
    simp [empty entry member]
  rw [directories_entries, unlisted, homeless]
  rfl

/-- Trees that are the same below the root agree on whatever is looked for there. -/
theorem agree_of_absolute {one other : FileTree} {path : SearchPath} {resources : List String}
    (absolute : ∀ directory ∈ path.directories, IsAbsolute directory)
    (same : ∀ name, IsAbsolute name → one.at? name = other.at? name) : Agree resources path.directories one other :=
  fun resource _ directory listed => same _ (joinPath_absolute (absolute directory listed) resource)

end DfsClient.Config

namespace DfsClient
open Boundary Config

/-- A call that names a directory to make a builder from. -/
def Call.namesDirectory : Call → Bool
  | .newBuilderFrom .. => true
  | _ => false

namespace Client

variable {engine : Engine}

/-- The client with other files around it, and other variables. -/
def placed (client : Client engine) (tree : FileTree) (environment : Variables) : Client engine :=
  { client with tree, environment }

variable {client : Client engine} {tree : FileTree} {environment : Variables}

section
variable [Formats]

theorem defaultBuilder_placed
    (same : loadDefaults tree (.ofVariables environment) = loadDefaults client.tree (.ofVariables client.environment))
    (caller : Caller engine.World) :
    (client.placed tree environment).defaultBuilder caller = client.defaultBuilder caller := by
  unfold defaultBuilder Builder.load placed
  rw [same]

/-- A call that does not name a directory goes by the default resources, and by no other files or variables. -/
theorem call_placed
    (same : loadDefaults tree (.ofVariables environment) = loadDefaults client.tree (.ofVariables client.environment))
    (thread : Nat) {call : Call} (plain : call.namesDirectory = false ∨ tree = client.tree) :
    (client.placed tree environment).call thread call =
      ((client.call thread call).1, (client.call thread call).2.placed tree environment) := by
  have builds : (client.placed tree environment).defaultBuilder ((client.placed tree environment).caller thread) =
      client.defaultBuilder (client.caller thread) := defaultBuilder_placed same (client.caller thread)
  cases call with
  | newBuilder into =>
    simp only [Client.call, builds]
    rfl
  | newBuilderFrom directory into =>
    obtain none | rfl := plain
    · cases none
    · rfl
  | lookUpDefaultText key present | lookUpDefaultInteger key present =>
    simp only [Client.call, builds]
    split
    · rfl
    · rfl
  | changeBuilder builder change =>
    have looked : (client.placed tree environment).builders = client.builders := rfl
    simp only [Client.call, changeBuilder, looked]
    cases changed (client.builders.find? builder) change <;> rfl
  | _ => rfl

/-- A run of such calls: none of them changes files or variables. -/
theorem run_placed
    (same : loadDefaults tree (.ofVariables environment) = loadDefaults client.tree (.ofVariables client.environment))
    (calls : List (Nat × Call)) (plain : ∀ step ∈ calls, step.2.namesDirectory = false ∨ tree = client.tree) :
    (client.placed tree environment).run calls = ((client.run calls).1, (client.run calls).2.placed tree environment) := by
  induction calls generalizing client with
  | nil => rfl
  | cons step rest ih =>
    obtain ⟨thread, call⟩ := step
    obtain ⟨first, later⟩ := List.forall_mem_cons.mp plain
    have left := client.call_leaves thread call
    have goes := @ih (client.call thread call).2 (by rw [left.tree, left.environment]; exact same)
      (by rw [left.tree]; exact later)
    simp only [run, call_placed same thread first, goes]

/-- Files below the current directory stay out of a program unless its variables name a directory there. The
directories of the default path all start at the root exactly if every named entry does, and the home if one is set,
even to nothing: that adds the directory etc/hadoop below the current one. Where they do, a program goes the same
whatever files there are that do not start at the root, as long as it names no directory itself. Where only empty
entries are named and no home is set, it goes as if neither variable was set. -/
theorem relative_files_stay_out (client : Client engine) :
    let environment := client.environment
    ((∀ directory ∈ (SearchPath.ofVariables environment).directories, IsAbsolute directory) ↔
      (∀ entry ∈ environment.entries, entry ≠ [] → entry.head? = some '/') ∧
        ∀ home, environment.home = some home → IsAbsolute home) ∧
    (environment.home = some "" → (SearchPath.ofVariables environment).directories =
      (environment.entries.filter (· != [])).map String.ofList ++ ["etc/hadoop", "/etc/hadoop/conf"]) ∧
    ((∀ entry ∈ environment.entries, entry = []) → environment.home = none → ∀ calls,
      (client.placed client.tree {}).run calls = ((client.run calls).1, (client.run calls).2.placed client.tree {})) ∧
    ((∀ entry ∈ environment.entries, entry ≠ [] → entry.head? = some '/') →
      (∀ home, environment.home = some home → IsAbsolute home) →
      ∀ tree : FileTree, (∀ path, IsAbsolute path → tree.at? path = client.tree.at? path) →
      ∀ calls, (∀ step ∈ calls, step.2.namesDirectory = false) →
        (client.placed tree environment).run calls =
          ((client.run calls).1, (client.run calls).2.placed tree environment)) := by
  intro environment
  have listed := directories_ofVariables environment
  refine ⟨?_, fun nothing => ?_, fun empty homeless calls => ?_, fun named home tree common calls plain => ?_⟩
  · rw [listed]
    exact directories_absolute_iff
  · rw [listed, directories_entries, nothing, List.append_assoc]
    rfl
  · apply run_placed _ calls fun _ _ => .inr rfl
    have path : SearchPath.ofVariables {} = .ofVariables environment := by
      have unnamed := directories_unnamed empty homeless
      exact congrArg SearchPath.mk ((directories_ofVariables {}).trans (unnamed.symm.trans listed.symm))
    rw [path]
  · apply run_placed _ calls fun step member => .inl (plain step member)
    apply layer_agree
    apply agree_of_absolute _ common
    rw [listed]
    exact directories_absolute_iff.mpr ⟨named, home⟩

end

/-- Below the current directory there is the configuration of a home that has no name. -/
def besideHome (environment : Variables) : Client Memory.engine where
  scene := ⟨{}, {}⟩
  tree := ⟨fun path =>
    if path = "etc/hadoop/core-site.toml" then .file [97, 61, 34, 112, 108, 97, 110, 116, 101, 100, 34] else .missing⟩
  environment

open scoped Formats.Standard

/-- With empty entries and no home, or entries and a home at the root, that file might as well not be there. -/
theorem rooted_home_ignores_relative :
    let calls : List (Nat × Call) := [(0, .newBuilder (some "b")), (1, .lookUpDefaultText (some [97]) true)]
    let unnamed := besideHome { configDirectories := some "::" }
    let rooted := besideHome { configDirectories := some ":/conf:", home := some "/" }
    ((unnamed.placed unnamed.tree {}).run calls).1 = (unnamed.run calls).1 ∧
      ((rooted.placed ⟨fun _ => .missing⟩ rooted.environment).run calls).1 = (rooted.run calls).1 := by
  intro calls unnamed rooted
  obtain ⟨-, -, unset, -⟩ := relative_files_stay_out unnamed
  obtain ⟨-, -, -, stays⟩ := relative_files_stay_out rooted
  refine ⟨(congrArg Prod.fst (unset ?_ rfl calls) :), (congrArg Prod.fst (stays ?_ ?_ _ ?_ calls ?_) :)⟩
  · decide
  · decide
  · rintro _ ⟨⟩
    decide
  · intro path root
    refine (if_neg ?_).symm
    rintro rfl
    exact absurd root (by decide)
  · decide

/-- A home that is set to nothing is not as good as none: a file below the current directory then makes the builder. -/
theorem empty_home_adds_directory :
    (∃ builder, ((besideHome { home := some "" }).call 0 (.newBuilder (some "b"))).2.builders.get? "b" = some builder ∧
      builder.snapshot.get? "a" = some "planted") ∧
    ∃ builder, ((besideHome {}).call 0 (.newBuilder (some "b"))).2.builders.get? "b" = some builder ∧
      builder.snapshot.get? "a" = none := by
  have planted : source (besideHome { home := some "" }).tree ["etc/hadoop", "/etc/hadoop/conf"] "core-site.toml" =
      .document [("a", .string "planted")] :=
    source_pair ['p', 'l', 'a', 'n', 't', 'e', 'd'] rfl (by decide) (by decide) (by decide) (by decide)
  have path : directories { home := some "" } = ["etc/hadoop", "/etc/hadoop/conf"] := by decide
  have emptied := Proofs.newBuilder_sources (besideHome { home := some "" }) 0 "b"
  have unset := Proofs.newBuilder_sources (besideHome {}) 0 "b"
  constructor
  · rw [show (besideHome { home := some "" }).environment = { home := some "" } from rfl, path, planted] at emptied
    obtain ⟨-, builder, there, values⟩ := emptied
    exact ⟨builder, there, (values "a").trans (by decide +kernel)⟩
  · obtain ⟨-, builder, there, values⟩ := unset
    exact ⟨builder, there, values "a"⟩

end Client
end DfsClient
