import DfsClient.Proofs.Holdings
import DfsClient.Proofs.Loading
import DfsClient.Proofs.Notices

/-! A client as it would be if nobody had attached an observer. Erasing the observers goes
along with everything that a client does. -/

namespace DfsClient
open Boundary

namespace Scene

variable {World : Type}

theorem unobserved_trace (scene : Scene World) (trace : Trace) :
    (scene.trace trace).unobserved = scene.unobserved.trace trace :=
  congrArg (Scene.mk · scene.world) (Ambient.unobserved_trace scene.ambient trace)

theorem unobserved_log (scene : Scene World) (level : Log.Level) (component : Log.Component)
    (message : String) :
    (scene.log level component message).unobserved = scene.unobserved.log level component message :=
  congrArg (Scene.mk · scene.world) (Ambient.unobserved_log scene.ambient level component message)

theorem unobserved_traceAll (scene : Scene World) (traces : List Trace) :
    (scene.traceAll traces).unobserved = scene.unobserved.traceAll traces := by
  induction traces generalizing scene with
  | nil => rfl
  | cons first rest ih =>
    change ((scene.trace first).traceAll rest).unobserved = (scene.unobserved.trace first).traceAll rest
    rw [ih, unobserved_trace]

theorem tells_traceAll (observer : Option Observer) (scene : Scene World) (traces : List Trace) :
    scene.ambient.Tells observer [] (scene.traceAll traces).ambient := by
  induction traces generalizing scene with
  | nil => exact .refl observer scene.ambient
  | cons first rest ih => exact (Ambient.Tells.trace observer scene.ambient first).trans (ih (scene.trace first))

variable [Formats]

theorem optionsOf_unobserved (scene : Scene World) (snapshot : Snapshot) :
    scene.unobserved.optionsOf snapshot =
      ((scene.optionsOf snapshot).1, (scene.optionsOf snapshot).2.unobserved) := by
  unfold optionsOf
  rw [unobserved_traceAll]

theorem tells_optionsOf (observer : Option Observer) (scene : Scene World) (snapshot : Snapshot) :
    scene.ambient.Tells observer [] (scene.optionsOf snapshot).2.ambient :=
  tells_traceAll observer scene _

theorem load_unobserved (tree : Config.FileTree) (path : Config.SearchPath) (scene : Scene World) :
    Builder.load tree path scene.unobserved =
      ((Builder.load tree path scene).1, (Builder.load tree path scene).2.unobserved) := by
  unfold Builder.load
  rw [unobserved_traceAll]

end Scene

namespace Boundary

def Slots.unobserved (slots : Slots) : Slots :=
  { slots with sessionObserver := none, fileObserver := none }

/-- The error that a simulated failure leaves behind. -/
def simulatedError : LastError := (38, "Simulated error")

namespace Caller

variable {World : Type}

def unobserved (caller : Caller World) : Caller World := ⟨caller.slots.unobserved, caller.scene.unobserved⟩

theorem reportAll_unobserved (caller : Caller World) (error : Option LastError) :
    caller.unobserved.reportAll error = (caller.reportAll error).unobserved := by
  cases error with
  | none => rfl
  | some error =>
    exact congrArg (Caller.mk _) (Scene.unobserved_trace caller.scene (reportNote error)).symm

theorem record_unobserved (caller : Caller World) (failure : Failure) :
    caller.unobserved.record failure = (caller.record failure).unobserved := by
  rw [record_eq, record_eq, reportAll_unobserved]

theorem tells_record (observer : Option Observer) (caller : Caller World) (failure : Failure) :
    caller.scene.ambient.Tells observer [] (caller.record failure).scene.ambient := by
  rw [record_eq]
  cases failure.error? with
  | none => exact .refl observer _
  | some error => exact .trace observer _ (reportNote error)

theorem record_simulated (caller : Caller World) :
    caller.record (.failed simulated) =
      ⟨caller.slots.withError simulatedError, caller.scene.trace (reportNote simulatedError)⟩ := by
  rw [record_eq]
  rfl

theorem settle_unobserved {α : Type} (caller : Caller World) (result : Result α) :
    caller.unobserved.settle result = ((caller.settle result).1, (caller.settle result).2.unobserved) := by
  match result with
  | .answered (.ok answer) => rfl
  | .answered (.error status) => exact congrArg (Prod.mk none) (record_unobserved caller _)
  | .panicked payload => exact congrArg (Prod.mk none) (record_unobserved caller _)

theorem tells_settle {α : Type} (observer : Option Observer) (caller : Caller World) (result : Result α) :
    caller.scene.ambient.Tells observer [] (caller.settle result).2.scene.ambient := by
  match result with
  | .answered (.ok answer) => exact .refl observer _
  | .answered (.error status) => exact tells_record observer caller _
  | .panicked payload => exact tells_record observer caller _

theorem finish_unobserved {α : Type} (caller : Caller World) (reply : Reply α) :
    caller.unobserved.finish reply = ((caller.finish reply).1, (caller.finish reply).2.unobserved) := by
  cases reply with
  | answered answer => rfl
  | panicked payload => exact congrArg (Prod.mk none) (record_unobserved caller _)

theorem tells_finish {α : Type} (observer : Option Observer) (caller : Caller World) (reply : Reply α) :
    caller.scene.ambient.Tells observer [] (caller.finish reply).2.scene.ambient := by
  cases reply with
  | answered answer => exact .refl observer _
  | panicked payload => exact tells_record observer caller _

theorem accept_unobserved {α : Type} (caller : Caller World) (result : Except Fault α) :
    caller.unobserved.accept result = ((caller.accept result).1, (caller.accept result).2.unobserved) := by
  cases result with
  | ok value => rfl
  | error fault => exact congrArg (Prod.mk none) (record_unobserved caller _)

theorem tells_accept {α : Type} (observer : Option Observer) (caller : Caller World)
    (result : Except Fault α) :
    caller.scene.ambient.Tells observer [] (caller.accept result).2.scene.ambient := by
  cases result with
  | ok value => exact .refl observer _
  | error fault => exact tells_record observer caller _

theorem loading_unobserved [Formats] (caller : Caller World) (tree : Config.FileTree) (path : Config.SearchPath) :
    caller.unobserved.loading tree path =
      ((caller.loading tree path).1, (caller.loading tree path).2.unobserved) := by
  let loaded := Builder.load tree path caller.scene
  have bare := congrArg (fun loaded : Reply Builder × Scene World =>
    { caller.unobserved with scene := loaded.2 }.finish loaded.1) (Scene.load_unobserved tree path caller.scene)
  exact bare.trans (finish_unobserved { caller with scene := loaded.2 } loaded.1)

theorem tells_loading [Formats] (observer : Option Observer) (caller : Caller World) (tree : Config.FileTree)
    (path : Config.SearchPath) :
    caller.scene.ambient.Tells observer [] (caller.loading tree path).2.scene.ambient := by
  let loaded := Builder.load tree path caller.scene
  have noted : caller.scene.ambient.Tells observer [] loaded.2.ambient :=
    Scene.tells_traceAll observer caller.scene _
  exact noted.trans (tells_finish observer { caller with scene := loaded.2 } loaded.1)

end Caller
end Boundary

namespace Memory

def File.unobserved (file : File) : File := { file with observer := none }

def Session.unobserved (session : Session) : Session := { session with observer := none }

end Memory

namespace Client
open Memory

def unobserved (client : Client engine) : Client engine where
  scene := client.scene.unobserved
  tree := client.tree
  environment := client.environment
  threads thread := (client.threads thread).unobserved
  builders := client.builders
  sessions := client.sessions.map Session.unobserved
  files := client.files.map File.unobserved

variable (client : Client engine) (thread : Nat)

theorem resume_unobserved (caller : Caller engine.World) :
    client.unobserved.resume thread caller.unobserved = (client.resume thread caller).unobserved := by
  have threads : (client.unobserved.resume thread caller.unobserved).threads =
      (client.resume thread caller).unobserved.threads := by
    funext other
    exact (apply_ite Slots.unobserved ..).symm
  exact congrArg (fun threads => { (client.resume thread caller).unobserved with threads }) threads

theorem find_session_unobserved (handle : Handle) :
    client.unobserved.sessions.find? handle = (client.sessions.find? handle).map Session.unobserved :=
  Table.find?_map ..

theorem find_file_unobserved (handle : Handle) :
    client.unobserved.files.find? handle = (client.files.find? handle).map File.unobserved :=
  Table.find?_map ..

theorem replaceSession_unobserved (into : Handle) (got : Option engine.Session) :
    client.unobserved.replaceSession into (got.map Session.unobserved) =
      (client.replaceSession into got).unobserved := by
  have sessions := Table.map_update Session.unobserved client.sessions into got
  cases into with
  | none =>
    cases got with
    | none => rfl
    | some session => rfl
  | some name =>
    have held : client.unobserved.sessions.get? name =
        (client.sessions.get? name).map Session.unobserved := Table.get?_map ..
    unfold replaceSession
    dsimp only
    rw [held]
    cases client.sessions.get? name with
    | none => exact congrArg (fun sessions => { client.unobserved with sessions }) sessions.symm
    | some old =>
      exact congrArg (fun sessions =>
        { client.unobserved with scene := Session.release old client.unobserved.scene, sessions }) sessions.symm

theorem replaceFile_unobserved (into : Handle) (got : Option engine.File) :
    client.unobserved.replaceFile into (got.map File.unobserved) =
      (client.replaceFile into got).unobserved := by
  have files := Table.map_update File.unobserved client.files into got
  cases into with
  | none =>
    cases got with
    | none => rfl
    | some file => rfl
  | some name =>
    have held : client.unobserved.files.get? name =
        (client.files.get? name).map File.unobserved := Table.get?_map ..
    unfold replaceFile
    dsimp only
    rw [held]
    cases client.files.get? name with
    | none => exact congrArg (fun files => { client.unobserved with files }) files.symm
    | some old => exact congrArg (fun files => { client.unobserved with files }) files.symm

theorem ambient_replaceSession (into : Handle) (got : Option engine.Session) :
    (client.replaceSession into got).scene.ambient = client.scene.ambient := by
  unfold replaceSession
  dsimp only
  split
  · rfl
  · rfl

theorem ambient_replaceFile (into : Handle) (got : Option engine.File) :
    (client.replaceFile into got).scene.ambient = client.scene.ambient := by
  unfold replaceFile
  dsimp only
  split
  · rfl
  · rfl

end Client
end DfsClient
