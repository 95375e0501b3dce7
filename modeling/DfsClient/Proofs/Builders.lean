import DfsClient.Client.Call
import DfsClient.Proofs.Tables

/-! What calls do to builders, over any engine. Only the calls that make, change or free a builder
act on the table of builders, and no call acts on what surrounds the program. -/

namespace DfsClient
open Boundary

/-- A handle under which a call puts a builder, changes the one that is there or frees it. -/
def Call.keptBuilder? : Call → Option Handle
  | .newBuilder into | .newBuilderFrom _ into => some into
  | .freeBuilder builder | .changeBuilder builder _ => some builder
  | _ => none

namespace Client

variable {engine : Engine} (client : Client engine) (thread : Nat)

/-- What a call leaves of the surroundings and of the builders. -/
structure Leaves (before after : Client engine) (kept : Option Handle) : Prop where
  tree : after.tree = before.tree
  environment : after.environment = before.environment
  builders : ∀ name, kept ≠ some (some name) → after.builders.get? name = before.builders.get? name

theorem call_leaves [Formats] (call : Call) : Leaves client (client.call thread call).2 call.keptBuilder? := by
  cases call with
  | newBuilder into | newBuilderFrom directory into =>
    exact ⟨rfl, rfl, fun name other => Table.get?_update_other _ _ fun same => other (congrArg some same)⟩
  | freeBuilder builder =>
    exact ⟨rfl, rfl, fun name other => Table.get?_update_other _ _ fun same => other (congrArg some same)⟩
  | changeBuilder builder change =>
    simp only [Client.call, changeBuilder]
    cases changed (client.builders.find? builder) change with
    | ok kept =>
      exact ⟨rfl, rfl, fun name other => Table.get?_update_other _ _ fun same => other (congrArg some same)⟩
    | error fault => exact ⟨rfl, rfl, fun _ _ => rfl⟩
  | lookUpDefaultText key present | lookUpDefaultInteger key present =>
    simp only [Client.call]
    split
    · exact ⟨rfl, rfl, fun _ _ => rfl⟩
    · exact ⟨rfl, rfl, fun _ _ => rfl⟩
  | _ => exact ⟨rfl, rfl, fun _ _ => rfl⟩

end Client
end DfsClient
