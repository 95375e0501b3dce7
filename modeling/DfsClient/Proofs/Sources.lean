import DfsClient.Config.Resources
import DfsClient.Proofs.Flattening

/-! Where a builder's first values come from. Each resource is absent, spoilt or a
document; two of them together make a configuration, or end where the writer panics over
a value. -/

namespace DfsClient.Config
open Toml

def directories (environment : Variables) : List String :=
  let named := environment.configDirectories.map fun text =>
    ((text.toList.splitOn ':').filter (· != [])).map String.ofList
  let home := environment.home.map fun home => joinPath (joinPath home "etc") "hadoop"
  named.getD [] ++ home.toList ++ ["/etc/hadoop/conf"]

theorem pieces_eq_splitOn (cs : List Char) : pieces cs = cs.splitOn ':' := by
  induction cs with
  | nil => rfl
  | cons c cs ih =>
    rw [List.splitOn, List.splitOnP_cons_eq_if_modifyHead, ← List.splitOn, ← ih]
    rw [pieces]
    by_cases colon : c = ':'
    · simp only [colon, ↓reduceIte, beq_self_eq_true]
    · simp only [colon, ↓reduceIte, beq_iff_eq]
      have some := List.splitOnP_ne_nil (· == ':') cs
      rw [← List.splitOn, ← ih] at some
      cases rest : pieces cs with
      | nil => exact absurd rest some
      | cons piece pieces => rfl

theorem SearchPath.listed_eq (text : String) :
    listed text = ((text.toList.splitOn ':').filter (· != [])).map String.ofList := by
  unfold listed
  rw [pieces_eq_splitOn]

theorem directories_ofVariables (environment : Variables) :
    (SearchPath.ofVariables environment).directories = directories environment := by
  unfold SearchPath.ofVariables directories
  simp only [funext SearchPath.listed_eq, SearchPath.fallback]
  cases environment.home <;> rfl

/-- The first file of a name in some directories, with its bytes if it can be read. -/
def firstCopy (tree : FileTree) (resource : String) : List String → Option (Option (List UInt8))
  | [] => none
  | directory :: rest =>
    match tree.at? (joinPath directory resource) with
    | .file bytes => some (some bytes)
    | .refusing => some none
    | _ => firstCopy tree resource rest

/-- What becomes of a resource. One that is not found gives nothing, one that cannot be
read or parsed spoils the others. -/
inductive Source where
  | absent
  | spoilt
  | document (entries : Entries)

variable [Formats]

def source (tree : FileTree) (directories : List String) (resource : String) : Source :=
  match firstCopy tree resource directories with
  | none => .absent
  | some bytes =>
    match (bytes.bind Text.decode?).bind Formats.document? with
    | some entries => .document entries
    | none => .spoilt

namespace Source

def isSpoilt : Source → Bool
  | .spoilt => true
  | _ => false

/-- The panic of the writer over a value, if it comes to that. -/
def panic? : Source → Option Payload
  | .document entries => firstPanic? (valuesOf entries)
  | _ => none

/-- The text of the last leaf of a key. -/
def value? (source : Source) (key : String) : Option String :=
  match source with
  | .document entries => Snapshot.latest (written (valuesOf entries)) key
  | _ => none

end Source

/-- Only a spoilt resource keeps the writer from the values of the next one. -/
def loadPanic? (core site : Source) : Option Payload :=
  core.panic?.or (if core.isSpoilt then none else site.panic?)

def configured (core site : Source) (key : String) : Option String :=
  if core.isSpoilt || site.isSpoilt then none else (site.value? key).or (core.value? key)

/-- A resource is found where its first copy is, and is laid over others as its source says. -/
theorem overlayFile_source (tree : FileTree) (path : SearchPath) (resource : String)
    (base : Snapshot) :
    match path.find? tree resource, source tree path.directories resource with
    | none, .absent => True
    | some file, .document entries => overlayFile tree base file = (overlay base entries).map .ok
    | some file, .spoilt => ∃ error, overlayFile tree base file = .answered (.error error)
    | _, _ => False := by
  obtain ⟨directories⟩ := path
  unfold SearchPath.find? source
  induction directories with
  | nil => trivial
  | cons directory rest ih =>
    simp only [List.map_cons, List.find?_cons, firstCopy]
    cases there : tree.at? (joinPath directory resource) with
    | file bytes =>
      have found : SearchPath.isFile tree (joinPath directory resource) = true := by
        simp only [SearchPath.isFile, there]
      simp only [found, Option.bind_some]
      cases read : Text.decode? bytes with
      | none => exact ⟨.unreadable (joinPath directory resource) .invalidData, by
          simp only [overlayFile, readText, there, read]⟩
      | some text =>
        simp only [Option.bind_some]
        cases parsed : Formats.document? text with
        | none =>
          exact ⟨.malformed (joinPath directory resource), by
            simp only [overlayFile, readText, there, read, overlayText?, parsed, Option.map_none]⟩
        | some entries =>
          simp only [overlayFile, readText, there, read, overlayText?, parsed, Option.map_some]
    | refusing =>
      have found : SearchPath.isFile tree (joinPath directory resource) = true := by
        simp only [SearchPath.isFile, there]
      simp only [found, Option.bind_none]
      exact ⟨.unreadable (joinPath directory resource) .refused, by simp only [overlayFile, readText, there]⟩
    | directory | missing | notDirectory =>
      have skipped : SearchPath.isFile tree (joinPath directory resource) = false := by
        simp only [SearchPath.isFile, there]
      simpa only [skipped] using ih

def laid : List Source → Snapshot → Bool → Reply (Option Snapshot)
  | [], snapshot, found => .answered (if found then some snapshot else none)
  | .absent :: rest, snapshot, found => laid rest snapshot found
  | .spoilt :: _, _, _ => .answered none
  | .document entries :: rest, snapshot, _ =>
    match overlay snapshot entries with
    | .answered snapshot => laid rest snapshot true
    | .panicked payload => .panicked payload

theorem layer_eq_laid (tree : FileTree) (path : SearchPath) (resources : List String)
    (layers : Layers) :
    (layer tree path resources layers).1 =
      laid (resources.map (source tree path.directories)) layers.snapshot layers.found := by
  induction resources generalizing layers with
  | nil => rfl
  | cons resource rest ih =>
    have found := overlayFile_source tree path resource layers.snapshot
    rw [layer, List.map_cons]
    cases file : path.find? tree resource with
    | none =>
      simp only [file] at found
      cases there : source tree path.directories resource with
      | absent => exact ih _
      | spoilt | document => simp only [there] at found
    | some copy =>
      simp only [file] at found
      cases there : source tree path.directories resource with
      | absent => simp only [there] at found
      | spoilt =>
        simp only [there] at found
        obtain ⟨error, spoilt⟩ := found
        simp only [spoilt, laid]
      | document entries =>
        simp only [there] at found
        simp only [found, laid]
        cases overlay layers.snapshot entries with
        | answered snapshot => exact ih _
        | panicked payload => rfl

/-- A document ends in the panic of the writer, if there is one; any other document wins over
what it is laid upon. -/
theorem overlay_source (base : Snapshot) (entries : Entries) :
    match overlay base entries with
    | .panicked payload => (Source.document entries).panic? = some payload
    | .answered snapshot => (Source.document entries).panic? = none ∧
        ∀ key, snapshot.get? key = ((Source.document entries).value? key).or (base.get? key) := by
  rw [overlay, flatten_eq]
  cases made : inserted (valuesOf entries) with
  | panicked payload => exact inserted_eq_panicked_iff.mp made
  | answered snapshot =>
    refine ⟨(inserted_eq_answered_iff.mp made).1, fun key => ?_⟩
    rw [Snapshot.get?_overlaidWith base (inserted_canonical made).ordered, get?_inserted made]
    rfl

/-- A load panics as the writer does over a value, and gives each key its value otherwise. -/
def LoadsAs (panic : Option Payload) (value : String → Option String) : Reply (Option Snapshot) → Prop
  | .panicked payload => panic = some payload
  | .answered loaded => panic = none ∧ ∀ key, (loaded.getD {}).get? key = value key

theorem laid_last (source : Source) (base : Snapshot) {found : Bool}
    (nothing : found = false → base = {}) :
    LoadsAs source.panic?
      (fun key => if source.isSpoilt then none else (source.value? key).or (base.get? key))
      (laid [source] base found) := by
  cases source with
  | absent =>
    cases found with
    | true => exact ⟨rfl, fun _ => rfl⟩
    | false =>
      rw [nothing rfl]
      exact ⟨rfl, fun _ => rfl⟩
  | spoilt => exact ⟨rfl, fun _ => rfl⟩
  | document entries =>
    have outcome := overlay_source base entries
    rw [laid]
    cases outer : overlay base entries with
    | answered snapshot =>
      simp only [outer] at outcome
      exact outcome
    | panicked payload =>
      simp only [outer] at outcome
      exact outcome

theorem loadDefaults_source (tree : FileTree) (path : SearchPath) :
    let core := source tree path.directories "core-site.toml"
    let site := source tree path.directories "hdfs-site.toml"
    LoadsAs (loadPanic? core site) (configured core site) (loadDefaults tree path).1 := by
  intro core site
  have same : (loadDefaults tree path).1 = laid [core, site] {} false :=
    layer_eq_laid tree path defaultResources {}
  rw [same]
  generalize core = core, site = site
  cases core with
  | spoilt => exact ⟨rfl, fun _ => rfl⟩
  | absent => exact laid_last site {} fun _ => rfl
  | document first =>
    have outcome := overlay_source {} first
    rw [laid]
    cases outer : overlay {} first with
    | panicked payload =>
      simp only [outer] at outcome
      change loadPanic? (.document first) site = some payload
      rw [loadPanic?, outcome]
      rfl
    | answered snapshot =>
      simp only [outer] at outcome
      have panics : loadPanic? (.document first) site = site.panic? := by
        rw [loadPanic?, outcome.1]
        rfl
      have value : configured (.document first) site = fun key =>
          if site.isSpoilt then none else (site.value? key).or (snapshot.get? key) := by
        funext key
        rw [outcome.2, show Snapshot.get? {} key = none from rfl, Option.or_none]
        rfl
      rw [panics, value]
      exact laid_last site snapshot nofun

end DfsClient.Config
