import DfsClient.Config.Resources
import DfsClient.Engine.Basic
import DfsClient.Proofs.Recording

/-! Reports of errors among all that is observed. Every report leaves a diagnostic of its
own form, by which reports can be counted; engines leave none of that form. -/

namespace DfsClient

/-- The form of the diagnostic that goes along with a report. -/
def Trace.isReport (trace : Trace) : Bool :=
  trace.message == "reporting error" && trace.fields.map Prod.fst == ["errno", "message"]

def Observation.report : Observation → Option Trace
  | .traced trace => if trace.isReport then some trace else none
  | _ => none

namespace Ambient

def reports (ambient : Ambient) : List Trace := ambient.seen.filterMap Observation.report

theorem reports_emit (ambient : Ambient) (observation : Observation) :
    (ambient.emit observation).reports = ambient.reports ++ observation.report.toList := by
  unfold reports emit
  rw [List.filterMap_append, List.filterMap_cons]
  cases observation.report <;> rfl

theorem reports_trace {trace : Trace} (other : trace.isReport = false) (ambient : Ambient) :
    (ambient.trace trace).reports = ambient.reports := by
  unfold Ambient.trace
  rw [reports_emit, Observation.report, other]
  exact List.append_nil _

theorem isReport_ofRecord (record : Log.Record) : (Trace.ofRecord record).isReport = false := by
  simp [Trace.isReport, Trace.ofRecord]

theorem reports_write (ambient : Ambient) (record : Log.Record) :
    (ambient.write record).reports = ambient.reports := by
  unfold write
  cases ambient.sink with
  | trace => exact reports_trace (isReport_ofRecord record) ambient
  | logger label =>
    dsimp only
    rw [reports_emit]
    exact List.append_nil _
  | handler receiver =>
    have same : (ambient.emit (.delivered receiver.label record.deliver)).reports = ambient.reports := by
      rw [reports_emit]
      exact List.append_nil _
    dsimp only
    split
    · exact same
    · exact same
  | discard => rfl

theorem reports_log (ambient : Ambient) (level : Log.Level) (component : Log.Component)
    (message : String) : (ambient.log level component message).reports = ambient.reports := by
  unfold log
  split
  · exact reports_write ..
  · rfl

theorem reports_tell? (ambient : Ambient) (observer : Option Observer) (event : Event) :
    (ambient.tell? observer event).2.reports = ambient.reports := by
  match observer with
  | none => rfl
  | some (.embedded _ _) | some (.handler _) =>
    simp only [tell?, tell, reports_emit]
    exact List.append_nil _

end Ambient

namespace Config

/-- What holds of the three notes that a load makes holds of all that it noted. -/
theorem forall_notes_layer [Formats] {holds : Trace → Prop}
    (missing : ∀ resource,
      holds ⟨.trace, "configuration resource not on the search path", [("resource", resource)]⟩)
    (found : ∀ file, holds ⟨.debug, "loaded configuration resource", [("path", file)]⟩)
    (spoilt : ∀ message, holds ⟨.warn, "ignoring configuration resources", [("error", message)]⟩)
    (tree : FileTree) (path : SearchPath) (resources : List String) (layers : Layers)
    (before : ∀ note ∈ layers.notes, holds note) :
    ∀ note ∈ (layer tree path resources layers).2, holds note := by
  induction resources generalizing layers with
  | nil => exact before
  | cons resource rest ih =>
    have added (note : Trace) (other : holds note) : ∀ one ∈ layers.notes ++ [note], holds one := by
      intro one member
      cases List.mem_append.mp member with
      | inl earlier => exact before one earlier
      | inr last => rw [List.mem_singleton.mp last]; exact other
    rw [layer]
    cases path.find? tree resource with
    | none => exact ih _ (added _ (missing resource))
    | some file =>
      dsimp only
      split
      · exact ih _ (added _ (found file))
      · exact added _ (spoilt _)
      · exact before

/-- The notes of a load are no reports. -/
theorem isReport_loadDefaults [Formats] (tree : FileTree) (path : SearchPath) :
    ∀ note ∈ (loadDefaults tree path).2, note.isReport = false := by
  refine forall_notes_layer (fun _ => ?_) (fun _ => ?_) (fun _ => ?_) tree path defaultResources {} nofun
  all_goals simp [Trace.isReport]

end Config

/-- What happens to a scene without a report and without an effect on the engine's world. -/
structure Scene.Quiet {World : Type} (before after : Scene World) : Prop where
  world : after.world = before.world
  reports : after.ambient.reports = before.ambient.reports

namespace Scene.Quiet

variable {World : Type} {before between after : Scene World}

theorem refl (scene : Scene World) : Quiet scene scene := ⟨rfl, rfl⟩

theorem trans (first : Quiet before between) (second : Quiet between after) : Quiet before after :=
  ⟨second.world.trans first.world, second.reports.trans first.reports⟩

theorem log (scene : Scene World) (level : Log.Level) (component : Log.Component) (message : String) :
    Quiet scene (scene.log level component message) :=
  ⟨rfl, Ambient.reports_log ..⟩

theorem tell? (scene : Scene World) (observer : Option Observer) (event : Event) :
    Quiet scene (scene.tell? observer event).2 :=
  ⟨rfl, Ambient.reports_tell? ..⟩

theorem trace (scene : Scene World) {trace : Trace} (other : trace.isReport = false) :
    Quiet scene (scene.trace trace) :=
  ⟨rfl, Ambient.reports_trace other _⟩

theorem traceAll (scene : Scene World) (traces : List Trace)
    (others : ∀ trace ∈ traces, trace.isReport = false) : Quiet scene (scene.traceAll traces) := by
  induction traces generalizing scene with
  | nil => exact refl scene
  | cons first rest ih =>
    exact (trace scene (others first List.mem_cons_self)).trans
      (ih _ fun other member => others other (List.mem_cons_of_mem _ member))

end Scene.Quiet

namespace Boundary.Caller

variable {World : Type} {before between after : Caller World}

/-- What a thread did reported these errors, one after the other, and changed nothing else
in its slots. -/
structure Records (errors : List LastError) (before after : Caller World) : Prop where
  reports : after.scene.ambient.reports = before.scene.ambient.reports ++ errors.map reportNote
  slots : after.slots = errors.foldl Slots.withError before.slots

namespace Records

theorem refl (caller : Caller World) : Records [] caller caller := ⟨(List.append_nil _).symm, rfl⟩

theorem silent {scene : Scene World} (same : scene.ambient.reports = before.scene.ambient.reports) :
    Records [] before { before with scene } :=
  ⟨same.trans (List.append_nil _).symm, rfl⟩

theorem trans {first second : List LastError} (one : Records first before between)
    (other : Records second between after) : Records (first ++ second) before after := by
  refine ⟨?_, ?_⟩
  · rw [other.reports, one.reports, List.map_append, List.append_assoc]
  · rw [other.slots, one.slots, List.foldl_append]

theorem record (caller : Caller World) (failure : Failure) :
    Records failure.error?.toList caller (caller.record failure) := by
  rw [record_eq]
  cases failure.error? with
  | none => exact refl caller
  | some error =>
    refine ⟨?_, rfl⟩
    change (caller.scene.ambient.trace (reportNote error)).reports = _
    unfold Ambient.trace
    rw [Ambient.reports_emit]
    rfl

end Records
end Boundary.Caller
end DfsClient
