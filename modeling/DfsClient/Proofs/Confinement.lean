import DfsClient.Client.Call
import DfsClient.Engine.Memory.Session
import DfsClient.Formats.Standard
import DfsClient.Proofs.Loading
import DfsClient.Proofs.PlainText
import DfsClient.Proofs.Tables
import DfsClient.Proofs.Utf8
import Mathlib.Data.List.Find

/-! Builders that are made from a directory. The text that names the directory is read as a list,
and only the resources in the directories of that list count: two trees that agree on them give the
same builder, whatever else they hold. A name without a colon lists itself alone. -/

namespace DfsClient.Config

theorem listed_plain {text : String} (named : text ≠ "") (plain : ':' ∉ text.toList) :
    SearchPath.listed text = [text] := by
  have kept : text.toList ≠ [] := fun empty => named (String.toList_eq_nil_iff.mp empty)
  rw [SearchPath.listed_eq, List.splitOn_eq_singleton plain]
  simp [kept]

section

open scoped Formats.Standard

/-- A resource that gives one key, "a", a plain text. -/
theorem source_pair {tree : FileTree} {directories : List String} {resource : String}
    {bytes : List UInt8} (cs : List Char) (copy : firstCopy tree resource directories = some (some bytes))
    (ascii : bytes.all fun byte => byte.toNat < 128)
    (spells : bytes.map (fun byte => Char.ofNat byte.toNat) = 'a' :: '=' :: '"' :: (cs ++ ['"']))
    (nonempty : cs ≠ []) (plain : cs.all Toml.isBasicChar) :
    source tree directories resource = .document [("a", .string (String.ofList cs))] := by
  have low (byte : UInt8) (member : byte ∈ bytes) : byte.toNat < 128 :=
    of_decide_eq_true (List.all_eq_true.mp ascii byte member)
  have read := Text.decode?_ascii bytes low
  rw [spells] at read
  have parsed : Formats.document? (String.ofList ('a' :: '=' :: '"' :: (cs ++ ['"']))) =
      some [("a", .string (String.ofList cs))] :=
    Toml.document?_pair (fun size => Toml.value?_quoted nonempty [] (List.all_eq_true.mp plain) size 79) rfl rfl
  simp only [source, copy, Option.bind_some, read, parsed]

end

theorem directories_set (path : SearchPath) (text : String) :
    (path.set text).directories = SearchPath.listed text := rfl

/-- Two trees that hold the same under the names of some resources in some directories. -/
def Agree (resources directories : List String) (one other : FileTree) : Prop :=
  ∀ resource ∈ resources, ∀ directory ∈ directories,
    one.at? (joinPath directory resource) = other.at? (joinPath directory resource)

section
variable {one other : FileTree} {resources : List String} {path : SearchPath}

theorem find?_agree {resource : String} (same : Agree [resource] path.directories one other) :
    path.find? one resource = path.find? other resource := by
  unfold SearchPath.find?
  apply List.find?_congr
  intro file member
  obtain ⟨directory, listed, rfl⟩ := List.mem_map.mp member
  simp only [SearchPath.isFile, same resource List.mem_cons_self directory listed]

variable [Formats]

theorem overlayFile_agree {file : String} (same : one.at? file = other.at? file) (base : Snapshot) :
    overlayFile one base file = overlayFile other base file := by
  simp only [overlayFile, readText, same]

/-- What is loaded depends on which file is found for each resource, and on what stands there. -/
theorem layer_congr {path' : SearchPath}
    (found : ∀ resource ∈ resources, path.find? one resource = path'.find? other resource)
    (same : ∀ resource ∈ resources, ∀ file, path'.find? other resource = some file → one.at? file = other.at? file)
    (layers : Layers) : layer one path resources layers = layer other path' resources layers := by
  induction resources generalizing layers with
  | nil => rfl
  | cons resource rest ih =>
    obtain ⟨first, later⟩ := List.forall_mem_cons.mp found
    obtain ⟨here, below⟩ := List.forall_mem_cons.mp same
    rw [layer, layer, first]
    cases copy : path'.find? other resource with
    | none => exact ih later below _
    | some file =>
      dsimp only
      rw [overlayFile_agree (here file copy)]
      cases overlayFile other layers.snapshot file with
      | panicked payload => rfl
      | answered outcome =>
        cases outcome with
        | ok snapshot => exact ih later below _
        | error error => rfl

theorem layer_agree (same : Agree resources path.directories one other) (layers : Layers) :
    layer one path resources layers = layer other path resources layers := by
  refine layer_congr (fun resource member => ?_) (fun resource member file found => ?_) layers
  · apply find?_agree
    intro next only
    rw [List.mem_singleton.mp only]
    exact same resource member
  · obtain ⟨directory, listed, rfl⟩ := List.mem_map.mp (List.mem_of_find?_eq_some found)
    exact same resource member directory listed

end
end DfsClient.Config

namespace DfsClient
open Boundary Config

/-- What a thread loads depends on the files alone, and not on the thread or its engine. -/
theorem Boundary.Caller.loading_agree [Formats] {World World' : Type} {one other : FileTree} (path : SearchPath)
    (same : Agree defaultResources path.directories one other) (caller : Caller World)
    (caller' : Caller World') : (caller.loading one path).1 = (caller'.loading other path).1 := by
  have layers : loadDefaults one path = loadDefaults other path := layer_agree same {}
  unfold loading Builder.load
  rw [layers]
  cases outcome : (loadDefaults other path).1 with
  | answered loaded => simp only [outcome, Reply.map, finish]
  | panicked payload => simp only [outcome, Reply.map, finish]

namespace Client

variable {engine engine' : Engine} {directory : Given} {text : String}

section
variable [Formats]

theorem call_newBuilderFrom (client : Client engine) (thread : Nat) (into : Handle)
    (spells : Spells directory text) :
    client.call thread (.newBuilderFrom directory into) =
      let (loaded, caller) := (client.caller thread).loading client.tree (.set {} text)
      (.handle loaded.isSome, (client.resume thread caller).keepBuilder into loaded) := by
  simp only [Client.call, directoryBuilder_ok client _ (requiredText_eq_ok_iff.mpr spells)]

theorem newBuilderFrom_sources (spells : Spells directory text)
    (client : Client engine) (thread : Nat) (into : String) :
    let core := source client.tree (SearchPath.listed text) "core-site.toml"
    let site := source client.tree (SearchPath.listed text) "hdfs-site.toml"
    let (answer, made) := client.call thread (.newBuilderFrom directory (some into))
    match loadPanic? core site with
    | some payload => answer = .handle false ∧ (made.threads thread).lastError = payload.error
    | none => answer = .handle true ∧ ∃ builder, made.builders.get? into = some builder ∧
        builder.Fresh (configured core site) := by
  have made := client.keepBuilder_sources thread into (.set {} text)
  rw [directories_set] at made
  rw [call_newBuilderFrom client thread (some into) spells]
  dsimp only at made ⊢
  generalize loadPanic? _ _ = panic? at made ⊢
  cases panic? with
  | some payload => exact ⟨congrArg Answer.handle made.1, made.2⟩
  | none => exact ⟨congrArg Answer.handle made.1, made.2⟩

theorem newBuilderFrom_agree (spells : Spells directory text)
    (client : Client engine) (client' : Client engine') (thread thread' : Nat) (into : String)
    (same : Agree defaultResources (SearchPath.listed text) client.tree client'.tree) :
    let (answer, made) := client.call thread (.newBuilderFrom directory (some into))
    let (answer', made') := client'.call thread' (.newBuilderFrom directory (some into))
    answer = answer' ∧ made.builders.get? into = made'.builders.get? into := by
  have loads := Caller.loading_agree (.set {} text) same (client.caller thread)
    (client'.caller thread')
  rw [call_newBuilderFrom client thread (some into) spells,
    call_newBuilderFrom client' thread' (some into) spells]
  dsimp only
  rw [get?_keepBuilder, get?_keepBuilder, loads]
  exact ⟨rfl, rfl⟩

/-- The two resources in the listed directories make the builder, and a value of them that
the writer panics over leaves none. Trees that agree on these resources give the same builder, in
any surroundings. A name without a colon lists itself alone. -/
theorem directory_builder_confined (spells : Spells directory text) :
    (text ≠ "" → ':' ∉ text.toList → SearchPath.listed text = [text]) ∧
    (∀ (client : Client engine) (thread : Nat) (name : String),
      let core := source client.tree (SearchPath.listed text) "core-site.toml"
      let site := source client.tree (SearchPath.listed text) "hdfs-site.toml"
      let (answer, made) := client.call thread (.newBuilderFrom directory (some name))
      match loadPanic? core site with
      | some payload => answer = .handle false ∧ (made.threads thread).lastError = payload.error
      | none => answer = .handle true ∧ ∃ builder, made.builders.get? name = some builder ∧
          builder.Fresh (configured core site)) ∧
    ∀ (client : Client engine) (client' : Client engine') (thread thread' : Nat) (name : String),
      Agree defaultResources (SearchPath.listed text) client.tree client'.tree →
        let (answer, made) := client.call thread (.newBuilderFrom directory (some name))
        let (answer', made') := client'.call thread' (.newBuilderFrom directory (some name))
        answer = answer' ∧ made.builders.get? name = made'.builders.get? name :=
  ⟨listed_plain, newBuilderFrom_sources spells, newBuilderFrom_agree spells⟩

end

/-- A directory "conf" with both resources, a directory "a:b" with one of them, and beside it a
directory "a" with another value for the same key. -/
def besideColon : Client Memory.engine where
  scene := ⟨{}, {}⟩
  tree := ⟨fun path =>
    if path = "conf/core-site.toml" then .file [97, 61, 34, 99, 111, 114, 101, 34]
    else if path = "conf/hdfs-site.toml" then .file [97, 61, 34, 115, 105, 116, 101, 34]
    else if path = "a:b/core-site.toml" then .file [97, 61, 34, 119, 104, 111, 108, 101, 34]
    else if path = "a/core-site.toml" then .file [97, 61, 34, 112, 105, 101, 99, 101, 34]
    else .missing⟩

open scoped Formats.Standard

/-- Of the two resources in the directory "conf" the second wins, and nothing beside it shows. -/
theorem both_resources_confined :
    Spells (some [99, 111, 110, 102]) "conf" ∧
      ∃ builder, (besideColon.call 0 (.newBuilderFrom (some [99, 111, 110, 102]) (some "b"))).2.builders.get? "b" =
          some builder ∧ builder.snapshot.get? "A" = some "site" ∧ builder.snapshot.get? "b" = none := by
  have spells : Spells (some [99, 111, 110, 102]) "conf" := ⟨_, rfl, by decide⟩
  obtain ⟨alone, made, -⟩ := @directory_builder_confined Memory.engine Memory.engine _ _ _ spells
  have made := made besideColon 0 "b"
  have core : source besideColon.tree ["conf"] "core-site.toml" = .document [("a", .string "core")] :=
    source_pair ['c', 'o', 'r', 'e'] rfl (by decide) (by decide) (by decide) (by decide)
  have site : source besideColon.tree ["conf"] "hdfs-site.toml" = .document [("a", .string "site")] :=
    source_pair ['s', 'i', 't', 'e'] rfl (by decide) (by decide) (by decide) (by decide)
  rw [alone (by decide) (by decide), core, site] at made
  obtain ⟨-, builder, there, fresh⟩ := made
  exact ⟨spells, builder, there, (fresh.2 "A").trans (by decide +kernel), (fresh.2 "b").trans (by decide +kernel)⟩

theorem colon_leaves_directory :
    let core := source besideColon.tree ["a:b"] "core-site.toml"
    let site := source besideColon.tree ["a:b"] "hdfs-site.toml"
    Spells (some [97, 58, 98]) "a:b" ∧
      configured core site "a" = some "whole" ∧
      ∃ builder, (besideColon.call 0 (.newBuilderFrom (some [97, 58, 98]) (some "b"))).2.builders.get? "b" =
          some builder ∧ builder.snapshot.get? "a" = some "piece" := by
  have spells : Spells (some [97, 58, 98]) "a:b" := ⟨_, rfl, by decide⟩
  have whole : source besideColon.tree ["a:b"] "core-site.toml" = .document [("a", .string "whole")] :=
    source_pair ['w', 'h', 'o', 'l', 'e'] rfl (by decide) (by decide) (by decide) (by decide)
  have piece : source besideColon.tree ["a", "b"] "core-site.toml" = .document [("a", .string "piece")] :=
    source_pair ['p', 'i', 'e', 'c', 'e'] rfl (by decide) (by decide) (by decide) (by decide)
  have absent : source besideColon.tree ["a", "b"] "hdfs-site.toml" = .absent := rfl
  have lists : SearchPath.listed "a:b" = ["a", "b"] := by simp [SearchPath.listed, pieces]
  have made := newBuilderFrom_sources spells besideColon 0 "b"
  rw [lists, piece, absent] at made
  obtain ⟨-, builder, there, fresh⟩ := made
  refine ⟨spells, ?_, builder, there, (fresh.2 "a").trans ?_⟩
  · rw [whole]
    decide +kernel
  · decide +kernel

end Client
end DfsClient
