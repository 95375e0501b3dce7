import DfsClient.Engine.Memory.Session
import DfsClient.Formats.Standard
import DfsClient.Proofs.CallOutcome
import DfsClient.Proofs.Overrides
import DfsClient.Proofs.SnapshotLaws
import DfsClient.Proofs.Tables
import DfsClient.Proofs.Utf8

/-! Values that callers set. A builder takes a value if key and value are texts and the key is not
blank. It then has the value under the key, and all else as before; of values that are set for one key
the last one stays, and the order of those for different keys makes no difference. A value that is not
taken leaves an error and nothing else, and a lookup leaves builders alone. -/

namespace DfsClient
open Boundary

namespace Boundary

/-- A key and a value that a caller may set: two texts, of which the key is not blank. -/
structure Admits (key value : Given) (name text : String) : Prop where
  key : Spells key name
  value : Spells value text
  visible : Text.allBlank name = false

theorem overlay?_eq_some_iff {key value : Given} {name text : String} :
    (Change.value key value).overlay? = some (name, text) ↔ Admits key value name text := by
  dsimp only [Change.overlay?]
  constructor
  · intro accepted
    split at accepted
    next read wanted =>
      split at accepted
      next => cases accepted
      next visible =>
        cases accepted
        exact ⟨textOf?_eq_some_iff.mp read, textOf?_eq_some_iff.mp wanted, Bool.eq_false_iff.mpr visible⟩
    next => cases accepted
  · intro admits
    rw [textOf?_eq_some_iff.mpr admits.key, textOf?_eq_some_iff.mpr admits.value]
    exact if_neg (Bool.eq_false_iff.mp admits.visible)

namespace Builder

def withValue (builder : Builder) (name text : String) : Builder :=
  { builder with snapshot := builder.snapshot.withValue name text }

theorem setGiven_of_admits (builder : Builder) {key value : Given} {name text : String}
    (admits : Admits key value name text) : builder.setGiven key value = .ok (builder.withValue name text) := by
  rw [setGiven_eq, overlay?_eq_some_iff.mpr admits]
  rfl

theorem setGiven_of_not_admits (builder : Builder) {key value : Given}
    (refused : ¬∃ name text, Admits key value name text) : builder.setGiven key value = .error .refusedValue := by
  rw [setGiven_eq]
  cases accepted : (Change.value key value).overlay? with
  | none => rfl
  | some entry => exact absurd ⟨entry.1, entry.2, overlay?_eq_some_iff.mp accepted⟩ refused

end Builder
end Boundary

namespace Client

variable {engine : Engine} {client : Client engine} {handle : Handle} {builder : Builder}
  {key value key' value' : Given} {name text name' text' : String}

theorem keepBuilder_keepBuilder (client : Client engine) (handle : Handle) (first last : Builder) :
    (client.keepBuilder handle (some first)).keepBuilder handle (some last) = client.keepBuilder handle (some last) :=
  congrArg (fun builders => { client with builders }) (Table.update_update client.builders handle first last)

theorem find?_keepBuilder (there : client.builders.find? handle = some builder) (next : Builder) :
    (client.keepBuilder handle (some next)).builders.find? handle = some next := by
  cases handle with
  | none => cases there
  | some name => exact Table.get?_set_same ..

section
variable [Formats]

theorem call_set (thread : Nat) (there : client.builders.find? handle = some builder)
    (admits : Admits key value name text) :
    client.call thread (.changeBuilder handle (.value key value)) =
      (.code 0, client.keepBuilder handle (some (builder.withValue name text))) := by
  simp only [Client.call, changeBuilder, there, changed, Builder.apply, builder.setGiven_of_admits admits]
  exact congrArg (fun client => (Answer.code 0, keepBuilder client handle (some (builder.withValue name text))))
    (client.resume_caller thread)

theorem call_set_refused (thread : Nat) (there : client.builders.find? handle = some builder)
    (refused : ¬∃ name text, Admits key value name text) :
    client.call thread (.changeBuilder handle (.value key value)) =
      (.code 1, client.reporting thread (22, "Could not change Builder value")) := by
  simp only [Client.call, changeBuilder, there, changed, Builder.apply, builder.setGiven_of_not_admits refused]
  rfl

theorem call_set_null (thread : Nat) (absent : client.builders.find? handle = none) :
    client.call thread (.changeBuilder handle (.value key value)) =
      (.code (-1), client.reporting thread (22, "Cannot perform operations with null Builder handle.")) := by
  simp only [Client.call, changeBuilder, absent, changed]
  rfl

theorem call_set_accepted_iff (client : Client engine) (thread : Nat) (handle : Handle) (key value : Given) :
    (client.call thread (.changeBuilder handle (.value key value))).1 = .code 0 ↔
      (∃ builder, client.builders.find? handle = some builder) ∧ ∃ name text, Admits key value name text := by
  constructor
  · intro accepted
    obtain absent | ⟨builder, there⟩ := (client.builders.find? handle).eq_none_or_eq_some
    · rw [call_set_null thread absent] at accepted
      exact absurd (Answer.code.inj accepted) (by decide)
    · by_cases admitted : ∃ name text, Admits key value name text
      · exact ⟨⟨builder, there⟩, admitted⟩
      · rw [call_set_refused thread there admitted] at accepted
        exact absurd (Answer.code.inj accepted) (by decide)
  · rintro ⟨⟨builder, there⟩, name, text, admits⟩
    rw [call_set thread there admits]

theorem call_set_not_accepted {thread : Nat}
    (refused : (client.call thread (.changeBuilder handle (.value key value))).1 ≠ .code 0) :
    client.call thread (.changeBuilder handle (.value key value)) =
      match client.builders.find? handle with
      | some _ => (.code 1, client.reporting thread (22, "Could not change Builder value"))
      | none => (.code (-1), client.reporting thread (22, "Cannot perform operations with null Builder handle.")) := by
  cases held : client.builders.find? handle with
  | none => exact call_set_null thread held
  | some builder =>
    apply call_set_refused thread held
    rintro ⟨name, text, admits⟩
    exact refused (congrArg Prod.fst (call_set thread held admits))

/-- Two values that are set, one after the other. -/
theorem call_set_set (thread other : Nat) (there : client.builders.find? handle = some builder)
    (admits : Admits key value name text) (admits' : Admits key' value' name' text') :
    (client.call thread (.changeBuilder handle (.value key value))).2.call other
        (.changeBuilder handle (.value key' value')) =
      (.code 0, client.keepBuilder handle (some ((builder.withValue name text).withValue name' text'))) := by
  rw [call_set thread there admits, call_set other (find?_keepBuilder there _) admits', keepBuilder_keepBuilder]

theorem call_lookUp (reader : Nat) (there : client.builders.find? handle = some builder) {given : Given}
    {asked : String} (spells : Spells given asked) :
    client.call reader (.lookUpText handle given true) =
      (.text 0 ((builder.snapshot.get? asked).map Text.cutAtNul), client) := by
  cases handle with
  | none => cases there
  | some name => exact Proofs.call_lookUpText client reader there (textOf?_eq_some_iff.mpr spells)

/-- A value comes back up to its first NUL. -/
theorem call_lookUp_bytes (reader : Nat) (there : client.builders.find? handle = some builder) {given : Given}
    {asked : String} (spells : Spells given asked) :
    ∃ found, client.call reader (.lookUpText handle given true) = (.text 0 found, client) ∧
      found.map Text.encode = (builder.snapshot.get? asked).map fun held => Text.beforeNul (Text.encode held) := by
  have cut : Text.encode ∘ Text.cutAtNul = fun held => Text.beforeNul (Text.encode held) := by
    funext held
    rw [Function.comp_apply, Text.encode_cutAtNul]
  refine ⟨_, call_lookUp reader there spells, ?_⟩
  rw [Option.map_map, cut]

/-- What comes of a value that a builder takes. -/
structure SetsValue (client : Client engine) (thread : Nat) (handle : Handle) (key value : Given) (name text : String)
    (after : Client engine) : Prop where
  builder : ∃ old new, client.builders.find? handle = some old ∧ after.builders.find? handle = some new ∧
    after = client.keepBuilder handle (some new) ∧ new.host = old.host ∧ new.port = old.port ∧ new.user = old.user ∧
    ∀ asked, new.snapshot.get? asked =
      if Text.fold asked = Text.fold name then some text else old.snapshot.get? asked
  found : ∀ reader given asked, Spells given asked →
    (after.call reader (.lookUpText handle given true)).1 =
      if Text.fold asked = Text.fold name then .text 0 (some text)
      else (client.call reader (.lookUpText handle given true)).1
  again : after.call thread (.changeBuilder handle (.value key value)) = (.code 0, after)
  last : ∀ other key' value' name' text', Admits key' value' name' text' → Text.fold name' = Text.fold name →
    after.call other (.changeBuilder handle (.value key' value')) =
      client.call other (.changeBuilder handle (.value key' value'))
  commutes : ∀ other key' value' name' text', Admits key' value' name' text' → Text.fold name' ≠ Text.fold name →
    after.call other (.changeBuilder handle (.value key' value')) =
      (client.call other (.changeBuilder handle (.value key' value'))).2.call thread
        (.changeBuilder handle (.value key value))

theorem call_setsValue (thread : Nat) (there : client.builders.find? handle = some builder)
    (admits : Admits key value name text) :
    SetsValue client thread handle key value name text
      (client.call thread (.changeBuilder handle (.value key value))).2 := by
  have after := call_set thread there admits
  have held := find?_keepBuilder there (builder.withValue name text)
  have values (asked : String) : (builder.withValue name text).snapshot.get? asked =
      if Text.fold asked = Text.fold name then some text else builder.snapshot.get? asked :=
    builder.snapshot.get?_withValue name text asked
  constructor
  case builder =>
    rw [after]
    exact ⟨builder, builder.withValue name text, there, held, rfl, rfl, rfl, rfl, values⟩
  case found =>
    intro reader given asked spells
    rw [after, call_lookUp reader held spells, call_lookUp reader there spells, values]
    split
    next => rw [Option.map_some, admits.value.cutAtNul]
    next => rfl
  case again =>
    rw [call_set_set thread thread there admits admits, after, Builder.withValue, Builder.withValue,
      Snapshot.withValue_same _ rfl]
  case last =>
    intro other key' value' name' text' admits' same
    rw [call_set_set thread other there admits admits', call_set other there admits', Builder.withValue,
      Builder.withValue, Snapshot.withValue_same _ same.symm]
    rfl
  case commutes =>
    intro other key' value' name' text' admits' apart
    rw [call_set_set thread other there admits admits', call_set_set other thread there admits' admits,
      Builder.withValue, Builder.withValue, Snapshot.withValue_comm _ apart.symm]
    rfl

/-- A value is taken exactly if there is a builder, both arguments are texts and the key is not blank. The answer is
else 1, or -1 without a builder, and all that is left is the error. A text that a builder has comes back up to its
first NUL. -/
theorem setting_laws (client : Client engine) (thread : Nat) (handle : Handle) (key value : Given) :
    let (answer, after) := client.call thread (.changeBuilder handle (.value key value))
    (answer = .code 0 ↔
      (∃ builder, client.builders.find? handle = some builder) ∧ ∃ name text, Admits key value name text) ∧
    (answer = .code 0 →
      ∃ name text, Admits key value name text ∧ SetsValue client thread handle key value name text after) ∧
    (answer ≠ .code 0 → (answer, after) =
      match client.builders.find? handle with
      | some _ => (.code 1, client.reporting thread (22, "Could not change Builder value"))
      | none => (.code (-1), client.reporting thread (22, "Cannot perform operations with null Builder handle."))) ∧
    (∀ builder reader given asked, client.builders.find? handle = some builder → Spells given asked →
      ∃ found, client.call reader (.lookUpText handle given true) = (.text 0 found, client) ∧
        found.map Text.encode = (builder.snapshot.get? asked).map fun held => Text.beforeNul (Text.encode held)) ∧
    ∀ reader given present, (client.call reader (.lookUpText handle given present)).2.builders = client.builders := by
  refine ⟨call_set_accepted_iff client thread handle key value, fun accepted => ?_, call_set_not_accepted, ?_, ?_⟩
  · obtain ⟨⟨builder, there⟩, name, text, admits⟩ := (call_set_accepted_iff client thread handle key value).mp accepted
    exact ⟨name, text, admits, call_setsValue thread there admits⟩
  · intro builder reader given asked there spells
    exact call_lookUp_bytes reader there spells
  · intro reader given present
    rfl

end

open scoped Formats.Standard

theorem value_is_found_in_any_case :
    let client : Client Memory.engine := { unconfigured with builders := Table.set {} "b" {} }
    let (answer, after) := client.call 0 (.changeBuilder (some "b") (.value (some [65]) (some [120])))
    answer = .code 0 ∧ (after.call 1 (.lookUpText (some "b") (some [97]) true)).1 = .text 0 (some "x") := by
  intro client
  have admits : Admits (some [65]) (some [120]) "A" "x" :=
    ⟨⟨[65], rfl, by decide +kernel⟩, ⟨[120], rfl, by decide +kernel⟩, by decide +kernel⟩
  obtain ⟨accepts, taken, -⟩ := setting_laws client 0 (some "b") (some [65]) (some [120])
  have accepted := accepts.mpr ⟨⟨{}, rfl⟩, "A", "x", admits⟩
  obtain ⟨name, text, admits', sets⟩ := taken accepted
  cases admits'.key.unique admits.key
  cases admits'.value.unique admits.value
  have found := sets.found 1 (some [97]) "a" ⟨[97], rfl, by decide +kernel⟩
  rw [if_pos (by decide +kernel)] at found
  exact ⟨accepted, found⟩

end Client
end DfsClient
