import DfsClient.Formats.Standard
import DfsClient.Proofs.StaleErrors

/-! Panics of an engine. One that ends an exchange ends the call that asked: what the call holds by then is
released, the panic becomes the last error of the thread, and the caller is answered a failure like any other. -/

namespace DfsClient
open Boundary

variable {engine : Engine}

namespace Engine.Exchange

/-- Whether something is released on the way out of a panic. -/
def abandons : engine.Exchange → Bool
  | .abandonSession _ | .abandonFile _ => true
  | _ => false

theorem panic?_of_abandons {exchange : engine.Exchange} (abandons : exchange.abandons = true) :
    exchange.panic? = none := by
  cases exchange with
  | abandonSession | abandonFile => rfl
  | _ => cases abandons

theorem errors_of_abandons {exchange : engine.Exchange} (abandons : exchange.abandons = true) :
    exchange.errors = [] := by
  cases exchange with
  | abandonSession | abandonFile => rfl
  | _ => cases abandons

theorem outcome_of_panic? {exchange : engine.Exchange} {payload : Payload} (panics : exchange.panic? = some payload) :
    exchange.outcome = .error (.panicked payload) := by
  unfold panic? at panics
  split at panics
  next payload' outcome =>
    cases panics
    exact outcome
  next => cases panics

theorem errors_of_panic? {exchange : engine.Exchange} {payload : Payload} (panics : exchange.panic? = some payload) :
    exchange.errors = [payload.error] := by
  unfold errors
  rw [outcome_of_panic? panics]
  exact rfl

end Engine.Exchange

/-- A journal in which a panic has the last word. Nothing panics before it, and after it nothing is asked but to
let go of what is held. -/
def PanicEnds (payload : Payload) (before journal : List engine.Exchange) : Prop :=
  ∃ exchange released, journal = before ++ exchange :: released ∧ panicsIn before = [] ∧
    exchange.panic? = some payload ∧ ∀ last ∈ released, last.abandons = true

namespace PanicEnds

variable {payload : Payload} {before journal released : List engine.Exchange} {exchange : engine.Exchange}

theorem of_mem (calm : panicsIn before = []) (abandons : ∀ last ∈ released, last.abandons = true)
    (panics : payload ∈ panicsIn (before ++ exchange :: released)) :
    PanicEnds payload before (before ++ exchange :: released) := by
  refine ⟨exchange, released, rfl, calm, ?_, abandons⟩
  rw [panicsIn_append, calm, List.nil_append, panicsIn, List.mem_filterMap] at panics
  obtain ⟨one, member, panics⟩ := panics
  obtain rfl | later := List.mem_cons.mp member
  · exact panics
  · rw [Engine.Exchange.panic?_of_abandons (abandons one later)] at panics
    cases panics

/-- The panic is the last of what is reported, and it is reported once. -/
theorem errorsIn_eq (ends : PanicEnds payload before journal) :
    errorsIn journal = errorsIn before ++ [payload.error] := by
  obtain ⟨exchange, released, rfl, -, panics, abandons⟩ := ends
  have quiet : errorsIn released = [] :=
    List.flatMap_eq_nil_iff.mpr fun last member => Engine.Exchange.errors_of_abandons (abandons last member)
  rw [errorsIn_append, errorsIn_cons, quiet, Engine.Exchange.errors_of_panic? panics, List.append_nil]

/-- Where one thing is all that is asked, its panic is all there is. -/
theorem once (panics : payload ∈ panicsIn [exchange]) :
    PanicEnds payload [] [exchange] ∧ exchange.outcome = .error (.panicked payload) := by
  have ends : PanicEnds payload [] ([] ++ [exchange]) := of_mem rfl (List.forall_mem_nil _) panics
  refine ⟨ends, ?_⟩
  obtain ⟨one, member, panics⟩ := List.mem_filterMap.mp panics
  rw [List.mem_singleton.mp member] at panics
  exact Engine.Exchange.outcome_of_panic? panics

end PanicEnds

namespace Boundary

variable {payload : Payload} {journal : List engine.Exchange} {observer : Option Observer}

theorem Errand.panic?_attempt (errand : Errand) (session held : engine.Session) (result : Result Unit) :
    (errand.attempt session result held).panic? =
      match result with
      | .panicked payload => some payload
      | _ => none := by
  obtain ⟨host, port, user, options⟩ := errand
  match result with
  | .answered (.ok ()) | .answered (.error status) | .panicked payload => cases host <;> cases port <;> rfl

theorem Caller.Acts.of_panic {ε ρ : Type} {denied : ρ} {ways : ε → List engine.Exchange → ρ → Prop}
    {caller after : Caller engine.World} {wanted : Except Fault ε} {got : ρ}
    (acts : Acts denied ways caller wanted journal got after) (panics : payload ∈ panicsIn journal) :
    ∃ arguments, wanted = .ok arguments ∧ ways arguments journal got ∧ Serves journal caller after := by
  obtain ⟨exchange, member, -⟩ := List.mem_filterMap.mp panics
  exact acts.of_mem member

/-- Nothing comes of a connect in which the engine panics. -/
theorem Connecting.panic_ends {errand : Errand} {user : String} {options : Options} {got : Option engine.Session}
    (connecting : Connecting observer errand.attempt user options journal got) (panics : payload ∈ panicsIn journal) :
    (∃ before, PanicEnds payload before journal) ∧ got = none := by
  cases connecting with
  | uncreated creating without =>
    cases creating with
    | noService payload' => exact ⟨⟨[], (PanicEnds.once panics).1⟩, rfl⟩
    | asked service => exact ⟨⟨_, .of_mem (rfl : panicsIn [_] = []) (List.forall_mem_nil _) panics⟩, rfl⟩
  | @created made _ _ _ creating establishing =>
    have calm : panicsIn made = [] := by
      cases creating
      rfl
    cases establishing with
    | @unattached attached held payload' attaching =>
      cases attaching with
      | somebody observer' => exact ⟨⟨_, .of_mem calm (List.forall_mem_singleton.mpr rfl) panics⟩, rfl⟩
    | @attempted attached ending held left result _ attaching concluding =>
      have calm : panicsIn (made ++ attached) = [] := by
        rw [panicsIn_append, calm]
        cases attaching <;> rfl
      rw [← List.append_assoc] at panics ⊢
      cases concluding with
      | made =>
        rw [panicsIn_append, calm, panicsIn, List.filterMap_cons_none (errand.panic?_attempt ..)] at panics
        exact (List.not_mem_nil panics).elim
      | failed status reply =>
        have calm : panicsIn (made ++ attached ++ [errand.attempt held (.failed status) left]) = [] := by
          rw [panicsIn_append, calm, panicsIn, List.filterMap_cons_none (errand.panic?_attempt ..)]
          rfl
        rw [List.append_cons] at panics ⊢
        exact ⟨⟨_, .of_mem calm (List.forall_mem_nil _) panics⟩, rfl⟩
      | lost payload' => exact ⟨⟨_, .of_mem calm (List.forall_mem_singleton.mpr rfl) panics⟩, rfl⟩

/-- Nor does a file come of an open. -/
theorem Opening.panic_ends {session held : engine.Session} {path : String} {got : Option engine.File}
    (opening : Opening observer session path held journal got) (panics : payload ∈ panicsIn journal) :
    (∃ before, PanicEnds payload before journal) ∧ got = none := by
  cases opening with
  | unopened without => exact ⟨⟨[], (PanicEnds.once panics).1⟩, rfl⟩
  | unobserved nobody file => cases panics
  | observed waits file left => cases panics
  | lost waits file left payload' =>
    exact ⟨⟨[_], .of_mem rfl (List.forall_mem_singleton.mpr rfl) panics⟩, rfl⟩

theorem toOption_of_error {α : Type} {found : Except Failure α} {failure : Failure} (same : found = .error failure) :
    found.toOption = none := by
  rw [same]
  rfl

theorem toOption_of_map_error {α β : Type} {found : Except Failure α} {value : α → β} {failure : Failure}
    (same : found.map value = .error failure) : found.toOption = none := by
  cases found with
  | ok answer => cases same
  | error failure => rfl

theorem Released.panic_ends {X : Type} {exchange : X → Reply Unit → engine.Exchange} {held : X} {got : Option Unit}
    (released : Released exchange held journal got)
    (faithful : ∀ reply, (exchange held reply).outcome = finished reply) (panics : payload ∈ panicsIn journal) :
    (∃ before, PanicEnds payload before journal) ∧ got = none := by
  obtain ⟨reply, rfl, rfl⟩ := released
  obtain ⟨ends, outcome⟩ := PanicEnds.once panics
  rw [faithful] at outcome
  exact ⟨⟨[], ends⟩, toOption_of_error outcome⟩

/-- The file is given back, whatever became of its use. -/
theorem Used.panic_ends {α β : Type} {exchange : engine.File → β → Result α → engine.File → engine.Exchange}
    {given : engine.File × β} {got : Option α × Option engine.File} (used : Used exchange given journal got)
    (faithful : ∀ result left, (exchange given.1 given.2 result left).outcome = .error (.panicked payload) →
      (resulting result).toOption = none)
    (panics : payload ∈ panicsIn journal) :
    (∃ before, PanicEnds payload before journal) ∧ got.1 = none ∧ ∃ left, got.2 = some left := by
  obtain ⟨result, left, rfl, rfl⟩ := used
  obtain ⟨ends, outcome⟩ := PanicEnds.once panics
  exact ⟨⟨[], ends⟩, faithful result left outcome, left, rfl⟩

end Boundary

/-- A table after a call. What stands under a handle that was asked about may be another thing than before, and
what was to be ended is gone. Anything else is as it was. -/
structure Table.Spares {α : Type} (asked ended : Option Handle) (before after : Table α) : Prop where
  others : ∀ name, asked ≠ some (some name) → ended ≠ some (some name) → after.get? name = before.get? name
  there : ∀ name, ended ≠ some (some name) → (after.get? name).isSome = (before.get? name).isSome
  gone : ∀ name, ended = some (some name) → after.get? name = none

namespace Table.Spares

variable {α : Type}

theorem refl (table : Table α) (asked : Option Handle) : table.Spares asked none table :=
  ⟨fun _ _ _ => rfl, fun _ _ => rfl, nofun⟩

theorem back {table : Table α} {handle : Handle} {held : α} (there : table.find? handle = some held) (left : α) :
    table.Spares (some handle) none (table.update handle (some left)) := by
  refine ⟨fun name other _ => ?_, fun name _ => ?_, nofun⟩
  · exact get?_update_other table _ fun same => other (congrArg some same)
  · by_cases same : handle = some name
    · subst same
      have before : table.get? name = some held := there
      rw [get?_update_same, before]
      rfl
    · rw [get?_update_other table _ same]

theorem ended (table : Table α) (asked : Option Handle) (handle : Handle) :
    table.Spares asked (some handle) (table.update handle none) := by
  refine ⟨fun name _ other => ?_, fun name other => ?_, fun name same => ?_⟩
  · exact get?_update_other table _ fun same => other (congrArg some same)
  · rw [get?_update_other table _ fun same => other (congrArg some same)]
  · cases same
    exact get?_update_same ..

end Table.Spares

/-- The session that a call asks to open a file. -/
def Call.askedSession? : Call → Option Handle
  | .openFile session _ _ => some session
  | _ => none

theorem withError_foldl (errors : List LastError) (slots : Slots) (error : LastError) :
    (errors.foldl Slots.withError slots).withError error = slots.withError error := by
  induction errors generalizing slots with
  | nil => rfl
  | cons first rest ih => exact ih (slots.withError first)

namespace Client

/-- What is left of a call in which an engine panicked. -/
structure Contained [Formats] (client : Client engine) (thread : Nat) (call : Call) (payload : Payload)
    (after : Client engine) : Prop where
  /-- The panic is reported once, after whatever was reported before it. -/
  trail : ∃ before, PanicEnds payload before (client.journal thread call) ∧
    Trail client.scene (client.journal thread call) (errorsIn before ++ [payload.error]) after.scene
  own : after.threads thread = (client.threads thread).withError payload.error
  others : ∀ other, other ≠ thread → after.threads other = client.threads other
  tree : after.tree = client.tree
  environment : after.environment = client.environment
  builders : after.builders = client.builders
  sessions : client.sessions.Spares call.askedSession? call.endedSession? after.sessions
  files : client.files.Spares call.usedFile? call.endedFile? after.files

/-- The call answers what stands for a failure, and that is left of it. -/
def Contains [Formats] (client : Client engine) (thread : Nat) (call : Call) (payload : Payload) : Prop :=
  ∃ after, client.returned thread call = (call.sentinel (.panicked payload), after) ∧
    Contained client thread call payload after

variable {client : Client engine} {thread : Nat} {call : Call} {payload : Payload}

section
variable [Formats]

/-- A thread that served an engine to the end reported the panic last. -/
theorem Contains.of_serves {caller : Caller engine.World} {answer : Answer}
    (sessions : Table engine.Session) (files : Table engine.File)
    (returned : client.returned thread call = (answer, { client.resume thread caller with sessions, files }))
    (absent : answer = call.sentinel (.panicked payload))
    (serves : Caller.Serves (client.journal thread call) (client.caller thread) caller)
    (ends : ∃ before, PanicEnds payload before (client.journal thread call))
    (spares : client.sessions.Spares call.askedSession? call.endedSession? sessions)
    (spares' : client.files.Spares call.usedFile? call.endedFile? files) :
    Contains client thread call payload := by
  obtain ⟨before, ends⟩ := ends
  obtain ⟨trail, slots⟩ := serves
  rw [ends.errorsIn_eq] at trail slots
  rw [List.foldl_append] at slots
  have own := (resumed_slots client thread caller).trans (slots.trans (withError_foldl ..))
  have others (other : Nat) (differ : other ≠ thread) := threads_resume_other client caller differ
  subst absent
  exact ⟨_, returned, ⟨before, ends, trail⟩, own, others, rfl, rfl, rfl, spares, spares'⟩

theorem connect_contains {wanted : Except Fault Errand} (errand : client.errand? call = some wanted)
    (panics : payload ∈ panicsIn (client.journal thread call)) : Contains client thread call payload := by
  obtain ⟨into, got, caller, -, acts, returned, -⟩ := @connect_returns _ client thread call _ wanted errand
  obtain ⟨arguments, -, way, serves⟩ := acts.of_panic panics
  obtain ⟨ends, rfl⟩ := Connecting.panic_ends way panics
  cases call with
  | connect | connectBuilder =>
    exact .of_serves client.sessions client.files returned rfl serves ends (.refl _ _) (.refl _ _)
  | _ => cases errand

theorem disconnect_contains {session : Handle}
    (panics : payload ∈ panicsIn (client.journal thread (.disconnect session))) :
    Contains client thread (.disconnect session) payload := by
  obtain ⟨got, caller, acts, returned, -⟩ := disconnect_returns client thread session
  obtain ⟨held, -, way, serves⟩ := acts.of_panic panics
  obtain ⟨ends, rfl⟩ := way.panic_ends (fun _ => rfl) panics
  exact .of_serves _ client.files returned rfl serves ends (.ended _ _ _) (.refl _ _)

theorem openFile_contains {session into : Handle} {path : Given}
    (panics : payload ∈ panicsIn (client.journal thread (.openFile session path into))) :
    Contains client thread (.openFile session path into) payload := by
  obtain ⟨got, caller, acts, returned, -⟩ := openFile_returns client thread session path into
  obtain ⟨given, passes, ⟨left, opening, kept⟩, serves⟩ := acts.of_panic panics
  have there := session_of_openable passes
  obtain ⟨ends, none⟩ := opening.panic_ends panics
  rw [kept, none] at returned
  exact .of_serves _ client.files returned rfl serves ends (.back there left) (.refl _ _)

theorem closeFile_contains {session file : Handle}
    (panics : payload ∈ panicsIn (client.journal thread (.closeFile session file))) :
    Contains client thread (.closeFile session file) payload := by
  obtain ⟨got, caller, acts, returned, -⟩ := closeFile_returns client thread session file
  obtain ⟨held, -, ⟨released, gone⟩, serves⟩ := acts.of_panic panics
  obtain ⟨ends, none⟩ := released.panic_ends (fun _ => rfl) panics
  rw [gone, none] at returned
  exact .of_serves client.sessions _ returned rfl serves ends (.refl _ _) (.ended _ _ _)

/-- Whatever a use of a file comes to, the file is still there. -/
theorem uses_contains {α β : Type} {session file : Handle} {arguments : Except Fault β}
    {exchange : engine.File → β → Result α → engine.File → engine.Exchange} {present : Option α → Answer}
    (uses : Uses client thread call session file arguments exchange present) (works : call.usedFile? = some file)
    (absent : present none = call.sentinel (.panicked payload))
    (faithful : ∀ held argument result left, (exchange held argument result left).outcome =
      .error (.panicked payload) → (resulting result).toOption = none)
    (panics : payload ∈ panicsIn (client.journal thread call)) : Contains client thread call payload := by
  have ends_nothing : call.endedSession? = none ∧ call.endedFile? = none := by
    cases call with
    | read | readAt | seek | tell | cancel => exact ⟨rfl, rfl⟩
    | _ => cases works
  obtain ⟨got, caller, acts, returned, -⟩ := uses
  obtain ⟨given, passes, way, serves⟩ := acts.of_panic panics
  have there := file_of_usable passes
  obtain ⟨ends, none, left, back⟩ := way.panic_ends (faithful _ _) panics
  rw [back, none] at returned
  refine .of_serves client.sessions _ returned absent serves ends ?_ ?_
  · rw [ends_nothing.1]
    exact .refl _ _
  · rw [works, ends_nothing.2]
    exact .back there left

theorem call_contains (panics : payload ∈ panicsIn (client.journal thread call)) :
    Contains client thread call payload := by
  have asks : call.asks = true := by
    obtain ⟨exchange, member, -⟩ := List.mem_filterMap.mp panics
    exact asks_of_mem member
  have moved {α β : Type} {result : Result α} {value : α → β} (outcome : (resulting result).map value =
      .error (.panicked payload)) : (resulting result).toOption = none := toOption_of_map_error outcome
  cases call with
  | connect | connectBuilder => exact connect_contains rfl panics
  | disconnect => exact disconnect_contains panics
  | openFile => exact openFile_contains panics
  | closeFile => exact closeFile_contains panics
  | read => exact uses_contains (read_returns ..) rfl rfl (fun _ _ _ _ => moved) panics
  | readAt => exact uses_contains (readAt_returns ..) rfl rfl (fun _ _ _ _ => moved) panics
  | seek => exact uses_contains (seek_returns ..) rfl rfl (fun _ _ _ _ => moved) panics
  | tell => exact uses_contains (tell_returns ..) rfl rfl (fun _ _ _ _ => moved) panics
  | cancel =>
    refine uses_contains (cancel_returns ..) rfl rfl (fun held argument result left outcome => ?_) panics
    match result with
    | .answered answer => cases outcome
    | .panicked payload' => rfl
  | _ => cases asks

/-- The client with all that an engine may change as it is after a call, and the rest as it was before. -/
def besides (client after : Client engine) : Client engine :=
  { client with scene := after.scene, sessions := after.sessions, files := after.files }

theorem Contained.recalls {after : Client engine} (contained : Contained client thread call payload after) :
    after = (client.besides after).recalling thread payload.error := by
  obtain ⟨-, own, others, tree, environment, builders, -, -⟩ := contained
  have threads : after.threads = ((client.besides after).recalling thread payload.error).threads := by
    funext other
    by_cases itself : other = thread
    · subst itself
      rw [own, recalling, resumed_slots]
      rfl
    · rw [others other itself]
      exact (threads_resume_other (client.besides after) _ itself).symm
  obtain ⟨scene, _, _, _, _, sessions, files⟩ := after
  dsimp only at tree environment builders
  subst tree environment builders
  exact congrArg (Client.mk scene client.tree client.environment · client.builders sessions files) threads

end

theorem keepNothing_recalling (client : Client engine) (owner : Nat) (stale : LastError) (call : Call) :
    (client.recalling owner stale).keepNothing call = (client.keepNothing call).recalling owner stale := by
  cases call <;> rfl

/-- Whichever engine panics, whatever it is asked and whatever the panic carries: the call answers what stands for
a failure, the panic is the last error of its thread and is reported once, and what the client holds is as it was,
but for what was to be ended and what the engine gave back. Later calls go on as they would without the panic, and
only the last error of the thread tells of it. -/
theorem panics_are_contained [Formats] (client : Client engine) (thread : Nat) (call : Call) {payload : Payload}
    (panics : payload ∈ panicsIn (client.journal thread call)) :
    let (answer, after) := client.returned thread call
    answer = call.sentinel (.panicked payload) ∧ Contained client thread call payload after ∧
      client.call thread call = (answer, after.keepNothing call) ∧
      ∀ later : List (Nat × Call),
        let (answers, last) := (client.call thread call).2.run later
        let (answers', last') := ((client.besides after).keepNothing call).run later
        (∃ error, last = last'.recalling thread error) ∧
          ∀ (i : Nat) turn, later[i]? = some turn → ¬ FetchesOf thread turn → answers[i]? = answers'[i]? := by
  obtain ⟨after, returned, contained⟩ := call_contains panics
  have called := call_keepNothing client thread call (by rw [returned]; exact sentinel_ne call _)
  rw [returned] at called ⊢
  refine ⟨rfl, contained, called, fun later => ?_⟩
  have left : (client.call thread call).2 =
      ((client.besides after).keepNothing call).recalling thread payload.error := by
    rw [called, ← keepNothing_recalling, ← contained.recalls]
  rw [left]
  exact run_recalling _ thread _ later

open scoped Formats.Standard

/-- A connect fails, and the release of its session panics without a text. -/
theorem panic_after_failure_is_contained :
    let client := scripted fun
      | .connectDefault => .fail (.permissionDenied "not you")
      | .dropSession => .panic (.text "")
      | _ => .succeed 0
    let call := Call.connect none 0 none (some "t")
    Payload.text "" ∈ panicsIn (client.journal 0 call) ∧ (client.call 0 call).1 = .handle false ∧
      errorsIn (client.journal 0 call) = [(13, "not you"), (4, "Exception raised")] ∧
      (client.returned 0 call).2.threads 0 = (client.threads 0).withError (4, "Exception raised") := by
  intro client call
  have once : panicsIn (client.journal 0 call) = [.text ""] := rfl
  have panics : Payload.text "" ∈ panicsIn (client.journal 0 call) := once ▸ List.mem_cons_self
  obtain ⟨answered, contained, called, -⟩ := panics_are_contained client 0 call panics
  refine ⟨panics, ?_, rfl, contained.own⟩
  rw [called]
  exact answered

end Client
end DfsClient
