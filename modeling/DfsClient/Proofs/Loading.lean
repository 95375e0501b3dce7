import DfsClient.Client.Basic
import DfsClient.Proofs.Recording
import DfsClient.Proofs.Sources
import DfsClient.Proofs.Tables

/-! Builders as they are made. A fresh builder has the values of the resources on its search path
and no override; where the writer panics over a value there is none, and the thread has an error. -/

namespace DfsClient
open Boundary Config

namespace Boundary

/-- A builder on which nothing was set, with these values. -/
def Builder.Fresh (value : String → Option String) (builder : Builder) : Prop :=
  builder = { snapshot := builder.snapshot } ∧ ∀ key, builder.snapshot.get? key = value key

variable [Formats]

namespace Caller

variable {World : Type}

/-- A thread that loads a builder from the default resources. -/
def loading (caller : Caller World) (tree : FileTree) (path : SearchPath) :
    Option Builder × Caller World :=
  let loaded := Builder.load tree path caller.scene
  { caller with scene := loaded.2 }.finish loaded.1

theorem loading_sources (caller : Caller World) (tree : FileTree) (path : SearchPath) :
    let core := source tree path.directories "core-site.toml"
    let site := source tree path.directories "hdfs-site.toml"
    let loaded := caller.loading tree path
    match loadPanic? core site with
    | some payload => loaded.1 = none ∧ loaded.2.slots.lastError = payload.error
    | none => ∃ builder, loaded.1 = some builder ∧ builder.Fresh (configured core site) := by
  intro core site made
  have loads : LoadsAs (loadPanic? core site) (configured core site) (loadDefaults tree path).1 :=
    loadDefaults_source tree path
  simp only [made, loading, Builder.load]
  cases outcome : (loadDefaults tree path).1 with
  | panicked payload =>
    rw [outcome] at loads
    change loadPanic? core site = some payload at loads
    simp only [loads, Reply.map, finish, lastError_record, Failure.error?, Option.getD_some, and_self]
  | answered loaded =>
    rw [outcome] at loads
    obtain ⟨calm, values⟩ := loads
    simp only [calm]
    exact ⟨_, rfl, rfl, values⟩

end Caller
end Boundary

namespace Client

variable {engine : Engine}

theorem get?_keepBuilder (client : Client engine) (name : String) (builder : Option Builder) :
    (client.keepBuilder (some name) builder).builders.get? name = builder :=
  Table.get?_update_same ..

variable [Formats]

theorem defaultBuilder_eq (client : Client engine) (caller : Caller engine.World) :
    client.defaultBuilder caller = caller.loading client.tree (.ofVariables client.environment) := rfl

theorem directoryBuilder_ok (client : Client engine) (caller : Caller engine.World) {directory : Given}
    {text : String} (given : requiredText "configDirectory" directory = .ok text) :
    client.directoryBuilder caller directory = caller.loading client.tree (.set {} text) := by
  unfold directoryBuilder
  rw [given]
  rfl

/-- What a client keeps of the builder that a thread got, or did not get. -/
theorem keepBuilder_sources (client : Client engine) (thread : Nat) (into : String)
    (path : SearchPath) :
    let core := source client.tree path.directories "core-site.toml"
    let site := source client.tree path.directories "hdfs-site.toml"
    let (loaded, caller) := (client.caller thread).loading client.tree path
    let made := (client.resume thread caller).keepBuilder (some into) loaded
    match loadPanic? core site with
    | some payload => loaded.isSome = false ∧ (made.threads thread).lastError = payload.error
    | none => loaded.isSome = true ∧ ∃ builder, made.builders.get? into = some builder ∧
        builder.Fresh (configured core site) := by
  intro core site
  have loads := (client.caller thread).loading_sources client.tree path
  dsimp only
  cases panics : loadPanic? core site with
  | some payload =>
    simp only [core, site] at panics
    simp only [panics] at loads
    obtain ⟨none, error⟩ := loads
    rw [none]
    have own := congrArg (fun caller => caller.slots.lastError)
      (client.caller_resume_same thread ((client.caller thread).loading client.tree path).2)
    exact ⟨rfl, own.trans error⟩
  | none =>
    simp only [core, site] at panics
    simp only [panics] at loads
    obtain ⟨builder, some, fresh⟩ := loads
    rw [some]
    exact ⟨rfl, builder, get?_keepBuilder .., fresh⟩

end Client
end DfsClient
