import DfsClient.Formats.Standard
import DfsClient.Proofs.Reachable
import DfsClient.Proofs.Utf8

/-! The error slots of threads. With the memory engine and handlers for observers, every
call that fails reports its failure once, to its own thread, and no other call reports. -/

namespace DfsClient
open Boundary Memory

/-- An answer by which a call says that it failed. A question about a file or a log setting
is answered, not failed. -/
def Call.failing (call : Call) (answer : Answer) : Bool :=
  match call with
  | .isOpenForRead _ | .filterLog _ => false
  | _ =>
    match answer with
    | .handle present => !present
    | .code n | .text n _ | .integer n _ => n != 0
    | .position n => n == -1
    | .transfer n _ => n == -1
    | .nothing | .buffer _ => false

/-- A failure, if it is one, that leaves an error behind. -/
def Reported {α : Type} (found : Except Failure α) : Prop :=
  ∀ failure, found = .error failure → ∃ error, failure.error? = some error

namespace Reported

variable {α β : Type}

theorem ok (answer : α) : Reported (.ok answer) := fun _ => nofun

theorem refused (fault : Fault) : Reported (.error (.refused fault) : Except Failure α) := by
  intro failure same
  cases same
  exact ⟨_, rfl⟩

theorem panicked (payload : Payload) : Reported (.error (.panicked payload) : Except Failure α) := by
  intro failure same
  cases same
  exact ⟨_, rfl⟩

theorem failed {status : Status} (bad : status.isOk = false) :
    Reported (.error (.failed status) : Except Failure α) := by
  intro failure same
  cases same
  exact ⟨_, Failure.error?_failed bad⟩

theorem allowed (result : Except Fault α) : Reported (Boundary.allowed result) := by
  cases result with
  | ok value => exact ok value
  | error fault => exact refused fault

theorem finished (reply : Reply α) : Reported (Boundary.finished reply) := by
  cases reply with
  | answered answer => exact ok answer
  | panicked payload => exact panicked payload

theorem resulting {result : Result α} (clean : Clean result) : Reported (Boundary.resulting result) := by
  match result with
  | .answered (.ok answer) => exact ok answer
  | .answered (.error status) => exact failed (clean status rfl)
  | .panicked payload => exact panicked payload

theorem bind {found : Except Failure α} {next : α → Except Failure β} (first : Reported found)
    (rest : ∀ answer, found = .ok answer → Reported (next answer)) : Reported (found.bind next) := by
  cases found with
  | ok answer => exact rest answer rfl
  | error failure =>
    intro other same
    cases same
    exact first failure rfl

theorem map {found : Except Failure α} (first : Reported found) (value : α → β) :
    Reported (found.map value) := by
  cases found with
  | ok answer => exact ok _
  | error failure =>
    intro other same
    cases same
    exact first failure rfl

end Reported

namespace Boundary.Caller

variable {caller : Caller engine.World}

end Boundary.Caller

namespace Client

variable {client : Client engine}

/-- A program that connects to the empty host. -/
def connecting : List Act :=
  [.addCluster 0 "" 8020 "c", .putFile 0 "/a" ⟨[104, 111], by decide⟩, .call 0 (.connect none 8020 none (some "s"))]

/-- It goes on to cancel a file. -/
def canceling : List Act :=
  connecting ++ [.call 0 (.openFile (some "s") (some [47, 97]) (some "f")), .call 0 (.cancel (some "s") (some "f"))]

open scoped Formats.Standard

end Client
end DfsClient
