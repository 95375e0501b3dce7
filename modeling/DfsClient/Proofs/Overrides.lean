import DfsClient.Formats.Standard
import DfsClient.Proofs.Layering
import DfsClient.Proofs.Requests

/-! Builders over a run. In each field the change that was accepted last counts, values add up, and
nothing else makes a difference to a builder. A connect resolves what the builder has come to by then. -/

namespace DfsClient
open Boundary Config

namespace Boundary

/-- The default file system is meant if nothing else is said. -/
theorem Endpoint.request_resolve (host : Option String) (port : Option UInt16) :
    (Endpoint.resolve host port).request =
      if host = none ∧ port = none then .connectDefault
      else .connect (host.getD "") (toString (port.getD 8020).toNat) := by
  cases host with
  | some host => rfl
  | none =>
    cases port with
    | some port => rfl
    | none => rfl

/-- The parts of a builder that changes act on. -/
inductive Field where
  | host
  | port
  | user
  | values
deriving DecidableEq, Repr

namespace Change

def field : Change → Field
  | .host _ => .host
  | .port _ => .port
  | .user _ => .user
  | .value .. => .values

/-- The host that an accepted change sets, or that it clears. -/
def host? : Change → Option (Option String)
  | .host given => optionalOf? given
  | _ => none

/-- Port 0 clears the one that was set. -/
def port? : Change → Option (Option UInt16)
  | .port given => some (if given = 0 then none else some given)
  | _ => none

/-- An empty user is none. -/
def user? : Change → Option String
  | .user given => (textOf? given).filter (· ≠ "")
  | _ => none

def overlay? : Change → Option (String × String)
  | .value name given =>
    match textOf? name, textOf? given with
    | some key, some text => if Text.allBlank key then none else some (key, text)
    | _, _ => none
  | _ => none

end Change

namespace Builder

/-- The builder once changes were made to it, one after the other. -/
def after (builder : Builder) (changes : List Change) : Builder where
  host := (changes.filterMap Change.host?).getLast?.getD builder.host
  port := (changes.filterMap Change.port?).getLast?.getD builder.port
  user := (changes.filterMap Change.user?).getLast?.or builder.user
  snapshot := Proofs.layered builder.snapshot (changes.filterMap Change.overlay?)

theorem after_append (builder : Builder) (first second : List Change) :
    builder.after (first ++ second) = (builder.after first).after second := by
  unfold after Proofs.layered
  simp only [List.filterMap_append, List.getLast?_append, Option.getD_or, Option.or_assoc, List.foldl_append]

theorem after_single (builder : Builder) (change : Change) :
    builder.after [change] =
      { host := change.host?.getD builder.host
        port := change.port?.getD builder.port
        user := change.user?.or builder.user
        snapshot := Proofs.layered builder.snapshot change.overlay?.toList } := by
  have single {α : Type} (view : Change → Option α) : [change].filterMap view = (view change).toList := by
    cases seen : view change with
    | none => exact List.filterMap_cons_none seen
    | some value => exact List.filterMap_cons_some seen
  have last {α : Type} (value : Option α) : value.toList.getLast? = value := by
    cases value <;> rfl
  unfold after
  simp only [single, last]

/-- Values are set as a whole. -/
theorem setGiven_eq (builder : Builder) (key value : Given) :
    builder.setGiven key value =
      match (Change.value key value).overlay? with
      | some (name, text) => .ok { builder with snapshot := builder.snapshot.withValue name text }
      | none => .error .refusedValue := by
  rw [Proofs.setGiven_texts]
  dsimp only [Change.overlay?]
  cases textOf? key with
  | none => rfl
  | some name =>
    cases textOf? value with
    | none => rfl
    | some text =>
      dsimp only
      cases Text.allBlank name <;> rfl

/-- A change is made as a whole, or refused without a trace in the builder. -/
theorem apply_eq (builder : Builder) (change : Change) :
    builder.apply change = .ok (builder.after [change]) ∨
      (∃ fault, builder.apply change = .error fault) ∧ builder.after [change] = builder := by
  rw [after_single]
  cases change with
  | host given =>
    dsimp only [apply, Change.host?, Change.port?, Change.user?, Change.overlay?]
    rw [optionalText_eq]
    cases optionalOf? given with
    | some host => exact .inl rfl
    | none => exact .inr ⟨⟨_, rfl⟩, rfl⟩
  | port given => exact .inl rfl
  | user given =>
    dsimp only [apply, Change.host?, Change.port?, Change.user?, Change.overlay?]
    rw [optionalText_eq]
    cases given with
    | none => exact .inl rfl
    | some bytes =>
      have read : optionalOf? (some bytes) = (textOf? (some bytes)).map some := rfl
      rw [read]
      cases textOf? (some bytes) with
      | none => exact .inr ⟨⟨_, rfl⟩, rfl⟩
      | some user =>
        left
        by_cases empty : user = ""
        · subst empty
          rfl
        · simp [Except.map, withUser, Option.filter_some, Proofs.layered, empty]
  | value name given =>
    dsimp only [apply, Change.host?, Change.port?, Change.user?]
    rw [setGiven_eq]
    cases (Change.value name given).overlay? with
    | none => exact .inr ⟨⟨_, rfl⟩, rfl⟩
    | some entry => exact .inl rfl

end Builder
end Boundary
namespace Call

def newBuilder? : Call → Option Handle
  | .newBuilder into | .newBuilderFrom _ into => some into
  | _ => none

end Call

namespace Client

variable {engine : Engine} {client : Client engine} {name : String} {builder : Builder}

section
variable [Formats]

end

/-- Nothing is configured here. -/
def unconfigured : Client Memory.engine where
  scene := ⟨{}, {}⟩
  tree := ⟨fun _ => .missing⟩

open scoped Formats.Standard

end Client
end DfsClient
