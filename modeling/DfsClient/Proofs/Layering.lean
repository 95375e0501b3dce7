import DfsClient.Client.Call
import DfsClient.Proofs.Loading
import DfsClient.Proofs.Utf8

/-! The values of a builder over a whole run. It starts with what the resources on the
search path give, and every value that a caller sets successfully comes on top. -/

namespace DfsClient.Proofs
open Boundary Config

variable {engine : Engine}

structure Setting where
  thread : Nat
  key : Given
  value : Given

def Setting.call (setting : Setting) (builder : String) : Call :=
  .changeBuilder (some builder) (.value setting.key setting.value)

/-- The key and the value of a setting that was answered with success. -/
def Setting.accepted? (setting : Setting) (answer : Answer) : Option (String × String) :=
  match answer, textOf? setting.key, textOf? setting.value with
  | .code 0, some key, some value => some (key, value)
  | _, _, _ => none

def accepted (settings : List Setting) (answers : List Answer) : List (String × String) :=
  (settings.zip answers).filterMap fun entry => entry.1.accepted? entry.2

def layered (snapshot : Snapshot) (entries : List (String × String)) : Snapshot :=
  entries.foldl (fun snapshot entry => snapshot.withValue entry.1 entry.2) snapshot

/-- A key that is not blank is set to its value, and nothing else is set. -/
theorem setGiven_texts (builder : Builder) (key value : Given) :
    builder.setGiven key value =
      match textOf? key, textOf? value with
      | some name, some text =>
        if Text.allBlank name then .error .refusedValue
        else .ok { builder with snapshot := builder.snapshot.withValue name text }
      | _, _ => .error .refusedValue := by
  unfold Builder.setGiven
  cases given : textOf? key with
  | none => rw [requiredText_of_textOf?_none given]
  | some name =>
    rw [requiredText_of_textOf? given]
    cases wanted : textOf? value with
    | none => rw [requiredText_of_textOf?_none wanted]
    | some text =>
      rw [requiredText_of_textOf? wanted]
      simp only [Builder.set?, Snapshot.overlay?]
      cases Text.allBlank name <;> rfl

theorem accepted_cons (setting : Setting) (answer : Answer) (settings : List Setting)
    (answers : List Answer) :
    accepted (setting :: settings) (answer :: answers) =
      (setting.accepted? answer).toList ++ accepted settings answers := by
  simp only [accepted, List.zip_cons_cons, List.filterMap_cons]
  cases setting.accepted? answer <;> rfl

section
variable [Formats]

/-- Builders start with what the two resources give, and are only missing where the writer
panics over a value of these. -/
theorem newBuilder_sources (client : Client engine) (thread : Nat) (into : String) :
    let core := source client.tree (directories client.environment) "core-site.toml"
    let site := source client.tree (directories client.environment) "hdfs-site.toml"
    let (answer, after) := client.call thread (.newBuilder (some into))
    match loadPanic? core site with
    | some payload => answer = .handle false ∧ (after.threads thread).lastError = payload.error
    | none => answer = .handle true ∧ ∃ builder, after.builders.get? into = some builder ∧
        ∀ key, builder.snapshot.get? key = configured core site key := by
  have made := client.keepBuilder_sources thread into (.ofVariables client.environment)
  rw [directories_ofVariables] at made
  dsimp only at made ⊢
  generalize loadPanic? _ _ = panic? at made ⊢
  cases panic? with
  | some payload => exact ⟨congrArg Answer.handle made.1, made.2⟩
  | none =>
    obtain ⟨some, builder, there, fresh⟩ := made
    exact ⟨congrArg Answer.handle some, builder, there, fresh.2⟩

theorem call_setting (client : Client engine) (name : String) {builder : Builder}
    (there : client.builders.get? name = some builder) (setting : Setting) :
    let (answer, after) := client.call setting.thread (setting.call name)
    ∃ last, after.builders.get? name = some last ∧
      last.snapshot = layered builder.snapshot (setting.accepted? answer).toList := by
  have held : client.builders.find? (some name) = some builder := there
  simp only [Setting.call, Client.call, Client.changeBuilder, held, changed, Builder.apply, setGiven_texts,
    Setting.accepted?]
  cases textOf? setting.key with
  | none => exact ⟨builder, there, rfl⟩
  | some key =>
    cases textOf? setting.value with
    | none => exact ⟨builder, there, rfl⟩
    | some value =>
      cases blank : Text.allBlank key with
      | true =>
        simp only [blank, ↓reduceIte]
        exact ⟨builder, there, rfl⟩
      | false =>
        simp only [blank, Bool.false_eq_true, ↓reduceIte]
        exact ⟨_, Table.get?_set_same .., rfl⟩

/-- Settings of a builder by any threads add up in the order in which they were accepted. -/
theorem run_settings (client : Client engine) (name : String) {builder : Builder}
    (there : client.builders.get? name = some builder) (settings : List Setting) :
    let (answers, after) :=
      client.run (settings.map fun setting => (setting.thread, setting.call name))
    ∃ last, after.builders.get? name = some last ∧
      last.snapshot = layered builder.snapshot (accepted settings answers) := by
  induction settings generalizing client builder with
  | nil => exact ⟨builder, there, rfl⟩
  | cons setting rest ih =>
    obtain ⟨next, held, set⟩ := call_setting client name there setting
    obtain ⟨last, kept, sum⟩ := ih (client.call setting.thread (setting.call name)).2 held
    refine ⟨last, kept, sum.trans ?_⟩
    rw [accepted_cons, set, layered, layered, layered, ← List.foldl_append]
    rfl

theorem call_lookUpText (client : Client engine) (thread : Nat) {name : String} {builder : Builder}
    (there : client.builders.get? name = some builder) {key : Given} {text : String}
    (read : textOf? key = some text) :
    client.call thread (.lookUpText (some name) key true) =
      (.text 0 ((builder.snapshot.get? text).map Text.cutAtNul), client) := by
  have held : client.builders.find? (some name) = some builder := there
  simp only [Client.call, lookUpText, lookupArguments, held, requiredText_of_textOf? read, ↓reduceIte]
  exact congrArg (Prod.mk _) (client.resume_caller thread)

/-- A builder is made unless the writer panics over a value of the resources. Whatever is then
set, by whomever, the last accepted value of a key counts; without one it is that of the
resources, which give nothing at all if one of them is spoilt. -/
theorem layered_configuration (client : Client engine) (thread : Nat) (name : String)
    (settings : List Setting) :
    let core := source client.tree (directories client.environment) "core-site.toml"
    let site := source client.tree (directories client.environment) "hdfs-site.toml"
    let (answer, made) := client.call thread (.newBuilder (some name))
    match loadPanic? core site with
    | some payload => answer = .handle false ∧ (made.threads thread).lastError = payload.error
    | none =>
      let (answers, after) :=
        made.run (settings.map fun setting => (setting.thread, setting.call name))
      answer = .handle true ∧ ∃ builder, after.builders.get? name = some builder ∧ ∀ key,
        let value := (Snapshot.latest (accepted settings answers) key).or (configured core site key)
        builder.snapshot.get? key = value ∧
          ∀ reader given, textOf? given = some key →
            (after.call reader (.lookUpText (some name) given true)).1 =
              .text 0 (value.map Text.cutAtNul) := by
  have made := newBuilder_sources client thread name
  dsimp only at made ⊢
  split at made
  next => exact made
  next =>
    obtain ⟨answer, first, there, values⟩ := made
    obtain ⟨last, kept, sum⟩ := run_settings _ name there settings
    refine ⟨answer, last, kept, fun key => ?_⟩
    rw [← values, ← Snapshot.get?_foldl, ← layered, ← sum]
    exact ⟨rfl, fun reader _ read => congrArg Prod.fst (call_lookUpText _ reader kept read)⟩

end
end DfsClient.Proofs
