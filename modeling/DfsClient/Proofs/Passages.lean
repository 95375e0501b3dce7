import DfsClient.Proofs.Journal
import DfsClient.Proofs.Utf8

/-! What passes between a thread and an engine, for each thing that a thread does with one. Arguments that are
refused come before anything is asked. The journal of what was asked, and whatever came of it, then take one of
a few ways; which one, the answers of the engine decide. -/

namespace DfsClient
namespace Boundary

variable {engine : Engine}

variable (engine) in
/-- What is asked to create a session, and the reply. -/
inductive Creating (user : String) (options : Options) :
    List engine.Exchange → Reply (Option engine.Session) → Prop
  | noService (payload : Payload) :
      Creating user options [.newService (.panicked payload)] (.panicked payload)
  | asked (service : engine.Service) (reply : Reply (Option engine.Session)) :
      Creating user options [.newService (.answered service), .newSession service user options reply] reply

/-- What is asked to attach an observer, if one waits. -/
inductive Attaching (session : engine.Session) :
    Option Observer → List engine.Exchange → Reply Unit → engine.Session → Prop
  | nobody : Attaching session none [] (.answered ()) session
  | somebody (observer : Observer) (reply : Reply Unit) (held : engine.Session) :
      Attaching session (some observer) [.observeSession session observer reply held] reply held

theorem Creating.errorsIn_eq {user : String} {options : Options} {made : List engine.Exchange}
    {reply : Reply (Option engine.Session)} (creating : Creating engine user options made reply) :
    errorsIn made = errorsOf (created reply) := by
  cases creating with
  | noService => rfl
  | asked service reply =>
    have own : errorsIn [.newService (.answered service), .newSession service user options reply] =
        (Engine.Exchange.newSession service user options reply).errors := errorsIn_singleton _
    exact own.trans (errorsOf_map ..)

theorem Attaching.errorsIn_eq {session held : engine.Session} {observer : Option Observer}
    {attached : List engine.Exchange} {reply : Reply Unit} (attaching : Attaching session observer attached reply held) :
    errorsIn attached = errorsOf (finished reply) := by
  cases attaching with
  | nobody => rfl
  | somebody => exact errorsIn_singleton _

/-- How an attempt to connect ends: with the session, or with its release. -/
inductive Concluding (session : engine.Session) :
    Result Unit → List engine.Exchange → Option engine.Session → Prop
  | made : Concluding session (.ok ()) [] (some session)
  | failed (status : Status) (reply : Reply Unit) :
      Concluding session (.failed status) [.dropSession session reply] none
  | lost (payload : Payload) : Concluding session (.panicked payload) [.abandonSession session] none

/-- What passes once there is a session. The attempt is made with the session to which the observer was
attached. -/
inductive Establishing (observer : Option Observer)
    (attempt : engine.Session → Result Unit → engine.Session → engine.Exchange) (session : engine.Session) :
    List engine.Exchange → Option engine.Session → Prop
  | unattached {attached : List engine.Exchange} {held : engine.Session} {payload : Payload}
      (attaching : Attaching session observer attached (.panicked payload) held) :
      Establishing observer attempt session (attached ++ [.abandonSession held]) none
  | attempted {attached ending : List engine.Exchange} {held left : engine.Session} {result : Result Unit}
      {got : Option engine.Session} (attaching : Attaching session observer attached (.answered ()) held)
      (concluding : Concluding left result ending got) :
      Establishing observer attempt session (attached ++ attempt held result left :: ending) got

/-- What passes in a connect, and the session that it gets. -/
inductive Connecting (observer : Option Observer)
    (attempt : engine.Session → Result Unit → engine.Session → engine.Exchange) (user : String)
    (options : Options) : List engine.Exchange → Option engine.Session → Prop
  | uncreated {made : List engine.Exchange} {reply : Reply (Option engine.Session)}
      (creating : Creating engine user options made reply)
      (without : ∀ session, reply ≠ .answered (some session)) :
      Connecting observer attempt user options made none
  | created {made rest : List engine.Exchange} {session : engine.Session} {got : Option engine.Session}
      (creating : Creating engine user options made (.answered (some session)))
      (establishing : Establishing observer attempt session rest got) :
      Connecting observer attempt user options (made ++ rest) got

/-- What passes in an open, and the file that it gets. The observer is attached to a file that the engine gave. -/
inductive Opening (observer : Option Observer) (session : engine.Session) (path : String) (held : engine.Session) :
    List engine.Exchange → Option engine.File → Prop
  | unopened {result : Result engine.File} (without : ∀ file, result ≠ .answered (.ok file)) :
      Opening observer session path held [.openFile session path result held] none
  | unobserved (nobody : observer = none) (file : engine.File) :
      Opening observer session path held [.openFile session path (.ok file) held] (some file)
  | observed {listening : Observer} (waits : observer = some listening) (file left : engine.File) :
      Opening observer session path held
        [.openFile session path (.ok file) held, .observeFile file listening (.answered ()) left] (some left)
  | lost {listening : Observer} (waits : observer = some listening) (file left : engine.File) (payload : Payload) :
      Opening observer session path held
        [.openFile session path (.ok file) held, .observeFile file listening (.panicked payload) left,
          .abandonFile left] none

def Endpoint.exchange (endpoint : Endpoint) (session : engine.Session) (result : Result Unit)
    (held : engine.Session) : engine.Exchange :=
  match endpoint with
  | .defaultFs => .connectDefault session result held
  | .explicit host port => .connect session host (toString port.toNat) result held

theorem Endpoint.errors_exchange (endpoint : Endpoint) (session held : engine.Session) (result : Result Unit) :
    (endpoint.exchange session result held).errors = errorsOf (resulting result) := by
  cases endpoint <;> rfl

theorem createSession_journal (user : String) (options : Options) (scene : Scene engine.World) :
    ∃ journal, Creating engine user options journal (engine.createSession user options scene).1 ∧
      Trail scene journal [] (engine.createSession user options scene).2 ∧
      ∀ before, engine.recorded.createSession user options (scene.recorded before) =
        ((engine.createSession user options scene).1,
          (engine.createSession user options scene).2.recorded (before ++ journal)) := by
  have asks (before : List engine.Exchange) : engine.recorded.newService (scene.recorded before) =
      ((engine.newService scene).1,
        (engine.newService scene).2.recorded (before ++ [.newService (engine.newService scene).1])) := rfl
  unfold Engine.createSession
  simp only [asks]
  cases got : engine.newService scene with
  | mk reply after =>
    cases reply with
    | panicked payload => exact ⟨_, .noService payload, .once got, fun before => rfl⟩
    | answered service =>
      refine ⟨_, .asked service _, .asks got (.once rfl), fun before => ?_⟩
      exact congrArg (fun journal => (_, Scene.recorded _ journal)) (List.append_assoc ..)

theorem observeSession_journal (session : engine.Session) (observer : Option Observer) (scene : Scene engine.World) :
    ∃ journal, Attaching session observer journal (observeSession session observer scene).1
        (observeSession session observer scene).2.1 ∧
      Trail scene journal [] (observeSession session observer scene).2.2 ∧
      ∀ before, @observeSession engine.recorded session observer (scene.recorded before) =
        ((observeSession session observer scene).1, (observeSession session observer scene).2.1,
          (observeSession session observer scene).2.2.recorded (before ++ journal)) := by
  cases observer with
  | none =>
    refine ⟨[], .nobody, .rest scene, fun before => ?_⟩
    rw [List.append_nil]
    rfl
  | some observer => exact ⟨_, .somebody observer _ _, .once rfl, fun before => rfl⟩

theorem reach_happens (session : engine.Session) (endpoint : Endpoint) (scene : Scene engine.World) :
    (endpoint.exchange session (reach session endpoint scene).1 (reach session endpoint scene).2.1).Happens scene
      (reach session endpoint scene).2.2 := by
  cases endpoint <;> rfl

theorem reach_recorded (session : engine.Session) (endpoint : Endpoint) (scene : Scene engine.World)
    (before : List engine.Exchange) :
    @reach engine.recorded session endpoint (scene.recorded before) =
      ((reach session endpoint scene).1, (reach session endpoint scene).2.1,
        (reach session endpoint scene).2.2.recorded
          (before ++ [endpoint.exchange session (reach session endpoint scene).1 (reach session endpoint scene).2.1])) := by
  cases endpoint <;> rfl

namespace Caller

/-- The caller as it meets an engine with a journal. -/
def recorded (caller : Caller engine.World) (journal : List engine.Exchange) : Caller engine.recorded.World :=
  ⟨caller.slots, caller.scene.recorded journal⟩

/-- What a thread goes through between two points. Only reports change its slots. -/
structure Goes (journal : List engine.Exchange) (errors : List LastError) (before after : Caller engine.World) :
    Prop where
  trail : Trail before.scene journal errors after.scene
  slots : after.slots = errors.foldl Slots.withError before.slots

/-- A thread that reports just the errors of the exchanges that failed. -/
def Serves (journal : List engine.Exchange) (before after : Caller engine.World) : Prop :=
  Goes journal (errorsIn journal) before after

variable {before between after : Caller engine.World} {journal journal' : List engine.Exchange}
  {errors errors' : List LastError}

theorem Goes.append (first : Goes journal errors before between) (second : Goes journal' errors' between after) :
    Goes (journal ++ journal') (errors ++ errors') before after := by
  refine ⟨first.trail.append second.trail, ?_⟩
  rw [second.slots, first.slots, List.foldl_append]

theorem Goes.of_trail {scene : Scene engine.World} (trail : Trail before.scene journal [] scene) :
    Goes journal [] before { before with scene } :=
  ⟨trail, rfl⟩

/-- One exchange, of which the thread then reports the error. -/
theorem Serves.once {exchange : engine.Exchange} {scene : Scene engine.World}
    (happens : exchange.Happens before.scene scene) (goes : Goes [] exchange.errors { before with scene } after) :
    Serves [exchange] before after := by
  have both := (Goes.of_trail (.once happens)).append goes
  unfold Serves
  rw [errorsIn_singleton]
  exact both

theorem Goes.record (caller : Caller engine.World) (failure : Failure) :
    Goes [] failure.error?.toList caller (caller.record failure) := by
  rw [record_eq]
  cases failure.error? with
  | none => exact ⟨.rest _, rfl⟩
  | some error => exact ⟨.reports (.rest _), rfl⟩

theorem record_recorded (caller : Caller engine.World) (failure : Failure) (before : List engine.Exchange) :
    (caller.recorded before).record failure = (caller.record failure).recorded before := by
  rw [record_eq, record_eq]
  cases failure.error? with
  | none => rfl
  | some error => rfl

theorem Goes.settle {α : Type} (caller : Caller engine.World) (result : Result α) :
    Goes [] (errorsOf (resulting result)) caller (caller.settle result).2 := by
  match result with
  | .answered (.ok answer) => exact ⟨.rest _, rfl⟩
  | .answered (.error status) => exact Goes.record caller (.failed status)
  | .panicked payload => exact Goes.record caller (.panicked payload)

theorem settle_recorded {α : Type} (caller : Caller engine.World) (result : Result α) (before : List engine.Exchange) :
    (caller.recorded before).settle result = ((caller.settle result).1, (caller.settle result).2.recorded before) := by
  match result with
  | .answered (.ok answer) => rfl
  | .answered (.error status) => exact congrArg (Prod.mk none) (record_recorded caller _ before)
  | .panicked payload => exact congrArg (Prod.mk none) (record_recorded caller _ before)

theorem Goes.finish {α : Type} (caller : Caller engine.World) (reply : Reply α) :
    Goes [] (errorsOf (finished reply)) caller (caller.finish reply).2 := by
  cases reply with
  | answered answer => exact ⟨.rest _, rfl⟩
  | panicked payload => exact Goes.record caller (.panicked payload)

theorem finish_recorded {α : Type} (caller : Caller engine.World) (reply : Reply α) (before : List engine.Exchange) :
    (caller.recorded before).finish reply = ((caller.finish reply).1, (caller.finish reply).2.recorded before) := by
  cases reply with
  | answered answer => rfl
  | panicked payload => exact congrArg (Prod.mk none) (record_recorded caller _ before)

theorem Goes.abandonSession (caller : Caller engine.World) (session : engine.Session) (payload : Payload) :
    Goes [.abandonSession session] (Failure.panicked payload).error?.toList caller
      (caller.abandonSession session payload) := by
  have released : (Engine.Exchange.abandonSession session).Happens caller.scene
    (engine.abandonSession session caller.scene) := rfl
  exact (Goes.of_trail (.once released)).append (Goes.record _ (.panicked payload))

theorem abandonSession_recorded (caller : Caller engine.World) (session : engine.Session) (payload : Payload)
    (before : List engine.Exchange) :
    @abandonSession engine.recorded (caller.recorded before) session payload =
      (caller.abandonSession session payload).recorded (before ++ [.abandonSession session]) :=
  record_recorded { caller with scene := engine.abandonSession session caller.scene } (.panicked payload) _

theorem Goes.abandonFile (caller : Caller engine.World) (file : engine.File) (payload : Payload) :
    Goes [.abandonFile file] (Failure.panicked payload).error?.toList caller
      (caller.abandonFile file payload) := by
  have released : (Engine.Exchange.abandonFile file).Happens caller.scene (engine.abandonFile file caller.scene) :=
    rfl
  exact (Goes.of_trail (.once released)).append (Goes.record _ (.panicked payload))

theorem abandonFile_recorded (caller : Caller engine.World) (file : engine.File) (payload : Payload)
    (before : List engine.Exchange) :
    @abandonFile engine.recorded (caller.recorded before) file payload =
      (caller.abandonFile file payload).recorded (before ++ [.abandonFile file]) :=
  record_recorded { caller with scene := engine.abandonFile file caller.scene } (.panicked payload) _

theorem Serves.releaseSession (caller : Caller engine.World) (session : engine.Session) :
    Serves [.dropSession session (engine.dropSession session caller.scene).1] caller
      (caller.releaseSession session).2 := by
  let got := engine.dropSession session caller.scene
  have released : (Engine.Exchange.dropSession session got.1).Happens caller.scene got.2 := rfl
  exact .once released (Goes.finish _ got.1)

theorem releaseSession_recorded (caller : Caller engine.World) (session : engine.Session)
    (before : List engine.Exchange) :
    @releaseSession engine.recorded (caller.recorded before) session =
      ((caller.releaseSession session).1, (caller.releaseSession session).2.recorded
        (before ++ [.dropSession session (engine.dropSession session caller.scene).1])) :=
  finish_recorded { caller with scene := (engine.dropSession session caller.scene).2 }
    (engine.dropSession session caller.scene).1 _

theorem concluding_journal (caller : Caller engine.World) (got : Result Unit × engine.Session × Scene engine.World) :
    ∃ ending, Concluding got.2.1 got.1 ending (caller.concluding got).1 ∧
      Goes ending (errorsOf (resulting got.1) ++ errorsIn ending) { caller with scene := got.2.2 }
        (caller.concluding got).2 ∧
      ∀ kept before, @concluding engine.recorded (caller.recorded kept) (got.1, got.2.1, got.2.2.recorded before) =
        ((caller.concluding got).1, (caller.concluding got).2.recorded (before ++ ending)) := by
  obtain ⟨result, session, scene⟩ := got
  match result with
  | .answered (.ok ()) =>
    refine ⟨[], .made, ⟨.rest _, rfl⟩, fun kept before => ?_⟩
    rw [List.append_nil]
    rfl
  | .answered (.error status) =>
    let reported := { caller with scene }.record (.failed status)
    have reports := Goes.record { caller with scene } (.failed status)
    refine ⟨[.dropSession session (engine.dropSession session reported.scene).1], .failed status _,
      reports.append (Serves.releaseSession reported session), fun kept before => ?_⟩
    have recorded := record_recorded { caller with scene } (.failed status) before
    have drops := congrArg (fun after => (@releaseSession engine.recorded after session).2) recorded
    exact congrArg (Prod.mk none)
      (drops.trans (congrArg Prod.snd (releaseSession_recorded reported session before)))
  | .panicked payload =>
    exact ⟨[.abandonSession session], .lost payload, Goes.abandonSession _ session payload,
      fun kept before => congrArg (Prod.mk none) (abandonSession_recorded { caller with scene } session payload before)⟩

theorem establish_journal (caller : Caller engine.World) (session : engine.Session) (endpoint : Endpoint)
    (user : Option String) :
    ∃ journal, Establishing caller.slots.sessionObserver endpoint.exchange session journal
        (caller.establish session endpoint user).1 ∧
      Serves journal caller (caller.establish session endpoint user).2 ∧
      ∀ before, @establish engine.recorded (caller.recorded before) session endpoint user =
        ((caller.establish session endpoint user).1,
          (caller.establish session endpoint user).2.recorded (before ++ journal)) := by
  obtain ⟨attached, attaching, trail, recorded⟩ :=
    observeSession_journal session caller.slots.sessionObserver caller.scene
  cases got : observeSession session caller.slots.sessionObserver caller.scene with
  | mk reply rest =>
    obtain ⟨held, scene⟩ := rest
    rw [got] at attaching trail recorded
    have attaches : Goes attached [] caller { caller with scene } := .of_trail trail
    cases reply with
    | panicked payload =>
      refine ⟨attached ++ [.abandonSession held], ?_, ?_, fun before => ?_⟩
      · rw [establish_panicked caller session endpoint user got]
        exact .unattached attaching
      · rw [establish_panicked caller session endpoint user got]
        unfold Serves
        rw [errorsIn_append, attaching.errorsIn_eq]
        exact attaches.append (Goes.abandonSession _ held payload)
      · rw [establish_panicked caller session endpoint user got,
          @establish_panicked engine.recorded (caller.recorded before) session endpoint user _ _ _ (recorded before),
          ← List.append_assoc]
        exact congrArg (Prod.mk none) (abandonSession_recorded { caller with scene } held payload _)
    | answered answer =>
      let noted := scene.trace (connectingNote endpoint user)
      have reached : Goes [_] [] { caller with scene } { caller with scene := (reach held endpoint noted).2.2 } :=
        .of_trail (.notes (isReport_connectingNote endpoint user) (.once (reach_happens held endpoint noted)))
      obtain ⟨ending, concludes, goes, kept⟩ := caller.concluding_journal (reach held endpoint noted)
      refine ⟨attached ++ endpoint.exchange held (reach held endpoint noted).1 (reach held endpoint noted).2.1 :: ending,
        ?_, ?_, fun before => ?_⟩
      · rw [establish_eq caller session endpoint user got]
        exact .attempted attaching concludes
      · rw [establish_eq caller session endpoint user got]
        unfold Serves
        rw [errorsIn_append, attaching.errorsIn_eq, errorsIn_cons, endpoint.errors_exchange]
        exact attaches.append (reached.append goes)
      · rw [establish_eq caller session endpoint user got,
          @establish_eq engine.recorded (caller.recorded before) session endpoint user _ _ (recorded before)]
        have reaches := reach_recorded held endpoint noted (before ++ attached)
        have ends := (congrArg (@concluding engine.recorded (caller.recorded before)) reaches).trans (kept before _)
        rw [List.append_assoc, List.append_assoc] at ends
        exact ends

theorem connect_journal (caller : Caller engine.World) (endpoint : Endpoint) (user : Option String)
    (options : Options) :
    ∃ journal, Connecting caller.slots.sessionObserver endpoint.exchange (user.getD "") options journal
        (caller.connect endpoint user options).1 ∧
      Serves journal caller (caller.connect endpoint user options).2 ∧
      ∀ before, @connect engine.recorded (caller.recorded before) endpoint user options =
        ((caller.connect endpoint user options).1,
          (caller.connect endpoint user options).2.recorded (before ++ journal)) := by
  obtain ⟨made, creating, trail, recorded⟩ := createSession_journal (user.getD "") options caller.scene
  have created (before : List engine.Exchange) :
      engine.recorded.createSession (user.getD "") options (caller.recorded before).scene = _ := recorded before
  unfold connect
  simp only [created]
  cases got : engine.createSession (user.getD "") options caller.scene with
  | mk reply scene =>
    rw [got] at creating trail
    have creates : Goes made [] caller { caller with scene } := .of_trail trail
    match reply with
    | .panicked payload =>
      refine ⟨made, .uncreated creating (fun _ => nofun), ?_, fun before => ?_⟩
      · unfold Serves
        rw [creating.errorsIn_eq, ← List.append_nil made]
        exact creates.append (Goes.record _ (.panicked payload))
      · exact congrArg (Prod.mk none) (record_recorded { caller with scene } (.panicked payload) _)
    | .answered none =>
      refine ⟨made, .uncreated creating (fun _ => nofun), ?_, fun before => ?_⟩
      · unfold Serves
        rw [creating.errorsIn_eq, ← List.append_nil made]
        exact creates.append (Goes.record _ (.refused .noSession))
      · exact congrArg (Prod.mk none) (record_recorded { caller with scene } (.refused .noSession) _)
    | .answered (some session) =>
      obtain ⟨rest, establishing, serves, kept⟩ := establish_journal { caller with scene } session endpoint user
      refine ⟨made ++ rest, .created creating establishing, ?_, fun before => ?_⟩
      · unfold Serves
        rw [errorsIn_append, creating.errorsIn_eq]
        exact creates.append serves
      · rw [← List.append_assoc]
        exact kept (before ++ made)

/-- A thread that refuses what it is given asks nothing of the engine. Otherwise what passes takes one of the
ways that there are, and the thread reports what fails on it. -/
inductive Acts {ε ρ : Type} (denied : ρ) (ways : ε → List engine.Exchange → ρ → Prop) (caller : Caller engine.World) :
    Except Fault ε → List engine.Exchange → ρ → Caller engine.World → Prop
  | refused (fault : Fault) :
      Acts denied ways caller (.error fault) [] denied (caller.record (.refused fault))
  | asked {arguments : ε} {journal : List engine.Exchange} {got : ρ} {after : Caller engine.World}
      (way : ways arguments journal got) (serves : Serves journal caller after) :
      Acts denied ways caller (.ok arguments) journal got after

/-- Where anything is asked at all, nothing was refused. -/
theorem Acts.of_mem {ε ρ : Type} {denied : ρ} {ways : ε → List engine.Exchange → ρ → Prop}
    {caller after : Caller engine.World} {wanted : Except Fault ε} {journal : List engine.Exchange} {got : ρ}
    (acts : Acts denied ways caller wanted journal got after) {exchange : engine.Exchange}
    (member : exchange ∈ journal) :
    ∃ arguments, wanted = .ok arguments ∧ ways arguments journal got ∧ Serves journal caller after := by
  cases acts with
  | refused fault => cases member
  | asked way serves => exact ⟨_, rfl, way, serves⟩

theorem refused_recorded (caller : Caller engine.World) (fault : Fault) (before : List engine.Exchange) :
    (caller.recorded before).record (.refused fault) = (caller.record (.refused fault)).recorded (before ++ []) := by
  rw [List.append_nil]
  exact record_recorded caller _ before

end Caller

/-- What a connect is sent for: an address, of which host and port may both be left out, and on whose behalf. -/
structure Errand where
  host : Option String
  port : Option UInt16
  user : Option String
  options : Options

namespace Errand

/-- The host is read before the user. -/
def ofArguments (host : Given) (port : UInt16) (user : Given) : Except Fault Errand :=
  match optionalOf? host, optionalOf? user with
  | none, _ => .error (.invalidText "nn")
  | some _, none => .error (.invalidText "user")
  | some host, some user => .ok { host, port := if port = 0 then none else some port, user, options := {} }

def ofBuilder [Formats] : Option Builder → Except Fault Errand
  | none => .error .nullBuilder
  | some builder =>
    .ok { host := builder.host, port := builder.port, user := builder.user, options := builder.options }

/-- The attempt to connect with a session. Where neither host nor port was given the default is meant. -/
def attempt (errand : Errand) (session : engine.Session) (result : Result Unit) (held : engine.Session) :
    engine.Exchange :=
  match errand.host, errand.port with
  | none, none => .connectDefault session result held
  | host, port => .connect session (host.getD "") (toString (port.getD 8020).toNat) result held

theorem exchange_resolve (errand : Errand) :
    @Endpoint.exchange engine (.resolve errand.host errand.port) = errand.attempt := by
  obtain ⟨host, port, user, options⟩ := errand
  funext session result held
  cases host <;> cases port <;> rfl

/-- What passes on an errand, and the session that comes of it. -/
def Passes (observer : Option Observer) (errand : Errand) (journal : List engine.Exchange)
    (got : Option engine.Session) : Prop :=
  Connecting observer errand.attempt (errand.user.getD "") errand.options journal got

end Errand

/-- One release, and whether it went well. -/
def Released {X : Type} (exchange : X → Reply Unit → engine.Exchange) (held : X) (journal : List engine.Exchange)
    (got : Option Unit) : Prop :=
  ∃ reply, journal = [exchange held reply] ∧ got = (finished reply).toOption

/-- One use of a file, what came of it and what the file then is. -/
def Used {α β : Type} (exchange : engine.File → β → Result α → engine.File → engine.Exchange)
    (given : engine.File × β) (journal : List engine.Exchange) (got : Option α × Option engine.File) : Prop :=
  ∃ result left, journal = [exchange given.1 given.2 result left] ∧ got = ((resulting result).toOption, some left)

/-- A closed file is gone, whatever came of its release. -/
def Closed (held : engine.File) (journal : List engine.Exchange) (got : Option Unit × Option engine.File) : Prop :=
  Released .dropFile held journal got.1 ∧ got.2 = none

/-- An open gives the session back along with the file. -/
def Opened (observer : Option Observer) (given : engine.Session × String) (journal : List engine.Exchange)
    (got : Option engine.File × Option engine.Session) : Prop :=
  ∃ held, Opening observer given.1 given.2 held journal got.1 ∧ got.2 = some held

def endable (session : Option engine.Session) : Except Fault engine.Session :=
  match session with
  | none => .error .nullDisconnect
  | some session => .ok session

def openable (session : Option engine.Session) (path : Given) : Except Fault (engine.Session × String) :=
  match session with
  | none => .error .nullSession
  | some session => (requiredText "path" path).map fun path => (session, path)

def usable {β : Type} (session : Option engine.Session) (file : Option engine.File) (arguments : Except Fault β) :
    Except Fault (engine.File × β) :=
  match checkedFile session file with
  | .error fault => .error fault
  | .ok held => arguments.map fun argument => (held, argument)

theorem session_of_openable {session : Option engine.Session} {path : Given} {given : engine.Session × String}
    (passes : openable session path = .ok given) : session = some given.1 := by
  cases session with
  | none => cases passes
  | some session =>
    unfold openable at passes
    cases text : requiredText "path" path with
    | error fault =>
      rw [text] at passes
      cases passes
    | ok text' =>
      rw [text] at passes
      cases passes
      rfl

theorem file_of_usable {β : Type} {session : Option engine.Session} {file : Option engine.File}
    {arguments : Except Fault β} {given : engine.File × β} (passes : usable session file arguments = .ok given) :
    file = some given.1 := by
  cases session with
  | none => cases passes
  | some session =>
    cases file with
    | none => cases passes
    | some held =>
      cases arguments with
      | error fault => cases passes
      | ok argument =>
        cases passes
        rfl

namespace Caller

theorem optionsOf_recorded [Formats] (scene : Scene engine.World) (snapshot : Snapshot) (before : List engine.Exchange) :
    (scene.recorded before).optionsOf snapshot =
      ((scene.optionsOf snapshot).1, (scene.optionsOf snapshot).2.recorded before) := by
  unfold Scene.optionsOf
  cases Options.defaultFsProblem? snapshot with
  | none => rfl
  | some problem => rfl

theorem errand_journal (caller : Caller engine.World) (errand : Errand) :
    ∃ journal, errand.Passes caller.slots.sessionObserver journal
        (caller.connect (.resolve errand.host errand.port) errand.user errand.options).1 ∧
      Serves journal caller (caller.connect (.resolve errand.host errand.port) errand.user errand.options).2 ∧
      ∀ before,
        @connect engine.recorded (caller.recorded before) (.resolve errand.host errand.port) errand.user errand.options =
          ((caller.connect (.resolve errand.host errand.port) errand.user errand.options).1,
            (caller.connect (.resolve errand.host errand.port) errand.user errand.options).2.recorded
              (before ++ journal)) := by
  have connects := caller.connect_journal (.resolve errand.host errand.port) errand.user errand.options
  rw [errand.exchange_resolve] at connects
  exact connects

theorem connectDirect_journal (caller : Caller engine.World) (host : Given) (port : UInt16) (user : Given) :
    ∃ journal, Acts none (Errand.Passes caller.slots.sessionObserver) caller (Errand.ofArguments host port user) journal
        (caller.connectDirect host port user).1 (caller.connectDirect host port user).2 ∧
      ∀ before, @connectDirect engine.recorded (caller.recorded before) host port user =
        ((caller.connectDirect host port user).1,
          (caller.connectDirect host port user).2.recorded (before ++ journal)) := by
  have refuses (fault : Fault) (before : List engine.Exchange) :
      (none, (caller.recorded before).record (.refused fault)) =
        ((none : Option engine.Session), (caller.record (.refused fault)).recorded (before ++ [])) :=
    congrArg (Prod.mk none) (refused_recorded caller fault before)
  unfold connectDirect Errand.ofArguments
  rw [optionalText_eq, optionalText_eq]
  cases optionalOf? host with
  | none => exact ⟨[], .refused _, refuses _⟩
  | some host =>
    cases optionalOf? user with
    | none => exact ⟨[], .refused _, refuses _⟩
    | some user =>
      obtain ⟨journal, passes, serves, recorded⟩ := caller.errand_journal ⟨host, portOverride port, user, {}⟩
      exact ⟨journal, .asked passes serves, recorded⟩

theorem connectBuilder_journal [Formats] (caller : Caller engine.World) (builder : Option Builder) :
    ∃ journal, Acts none (Errand.Passes caller.slots.sessionObserver) caller (Errand.ofBuilder builder) journal
        (caller.connectBuilder builder).1 (caller.connectBuilder builder).2 ∧
      ∀ before, @connectBuilder engine.recorded _ (caller.recorded before) builder =
        ((caller.connectBuilder builder).1, (caller.connectBuilder builder).2.recorded (before ++ journal)) := by
  cases builder with
  | none =>
    exact ⟨[], .refused .nullBuilder, fun before => congrArg (Prod.mk none) (refused_recorded caller _ before)⟩
  | some builder =>
    let resolved := caller.scene.optionsOf builder.snapshot
    obtain ⟨journal, passes, serves, recorded⟩ := errand_journal { caller with scene := resolved.2 }
      ⟨builder.host, builder.port, builder.user, builder.options⟩
    have noted : Goes [] [] caller { caller with scene := resolved.2 } := by
      refine .of_trail (.traceAll caller.scene _ fun note member => ?_)
      split at member
      · rw [List.mem_singleton.mp member]
        simp [Trace.isReport]
      · cases member
    refine ⟨journal, .asked passes (noted.append serves), fun before => ?_⟩
    have optioned := congrArg Prod.snd (optionsOf_recorded caller.scene builder.snapshot before)
    exact (congrArg (fun scene => @connect engine.recorded ⟨caller.slots, scene⟩ builder.endpoint builder.user
      builder.options) optioned).trans (recorded before)

theorem disconnect_journal (caller : Caller engine.World) (session : Option engine.Session) :
    ∃ journal, Acts none (Released .dropSession) caller (endable session) journal
        (caller.disconnect session).1 (caller.disconnect session).2 ∧
      ∀ before, @disconnect engine.recorded (caller.recorded before) session =
        ((caller.disconnect session).1, (caller.disconnect session).2.recorded (before ++ journal)) := by
  cases session with
  | none =>
    exact ⟨[], .refused .nullDisconnect, fun before => congrArg (Prod.mk none) (refused_recorded caller _ before)⟩
  | some session =>
    exact ⟨_, .asked ⟨_, rfl, (Settles.finish ..).answer⟩ (Serves.releaseSession caller session),
      releaseSession_recorded caller session⟩

theorem adoptFile_journal (caller : Caller engine.World) (session held : engine.Session) (path : String)
    (file : engine.File) :
    ∃ journal, Opening caller.slots.fileObserver session path held
        (.openFile session path (.ok file) held :: journal) (caller.adoptFile file).1 ∧
      Serves journal caller (caller.adoptFile file).2 ∧
      ∀ before, @adoptFile engine.recorded (caller.recorded before) file =
        ((caller.adoptFile file).1, (caller.adoptFile file).2.recorded (before ++ journal)) := by
  unfold adoptFile
  cases waits : caller.slots.fileObserver with
  | none =>
    have nobody (before : List engine.Exchange) : (caller.recorded before).slots.fileObserver = none := waits
    refine ⟨[], .unobserved rfl file, ⟨.rest _, rfl⟩, fun before => ?_⟩
    rw [nobody, List.append_nil]
    rfl
  | some listening =>
    have somebody (before : List engine.Exchange) : (caller.recorded before).slots.fileObserver = some listening := waits
    have asks (before : List engine.Exchange) :
        engine.recorded.observeFile file listening (caller.recorded before).scene =
          ((engine.observeFile file listening caller.scene).1, (engine.observeFile file listening caller.scene).2.1,
            (engine.observeFile file listening caller.scene).2.2.recorded (before ++
              [.observeFile file listening (engine.observeFile file listening caller.scene).1
                (engine.observeFile file listening caller.scene).2.1])) := rfl
    simp only [somebody, observeFile, asks]
    cases got : engine.observeFile file listening caller.scene with
    | mk reply rest =>
      obtain ⟨left, scene⟩ := rest
      have attached : (Engine.Exchange.observeFile file listening reply left).Happens caller.scene scene := got
      cases reply with
      | answered answer => exact ⟨_, .observed rfl file left, .of_trail (.once attached), fun before => rfl⟩
      | panicked payload =>
        refine ⟨_, .lost rfl file left payload, ?_, fun before => ?_⟩
        · exact (Goes.of_trail (.once attached)).append (Goes.abandonFile _ left payload)
        · have abandoned := abandonFile_recorded { caller with scene } left payload
            (before ++ [.observeFile file listening (.panicked payload) left])
          rw [List.append_assoc] at abandoned
          exact congrArg (Prod.mk none) abandoned

theorem taking_journal (caller : Caller engine.World) {session held : engine.Session} {path : String}
    {result : Result engine.File} {scene : Scene engine.World}
    (opened : (Engine.Exchange.openFile session path result held).Happens caller.scene scene) :
    ∃ journal, Opening caller.slots.fileObserver session path held journal
        (taking caller.slots (result, held, scene)).1 ∧
      (taking caller.slots (result, held, scene)).2.1 = some held ∧
      Serves journal caller (taking caller.slots (result, held, scene)).2.2 ∧
      ∀ before, @taking engine.recorded caller.slots
          (result, held, scene.recorded (before ++ [.openFile session path result held])) =
        ((taking caller.slots (result, held, scene)).1, (taking caller.slots (result, held, scene)).2.1,
          (taking caller.slots (result, held, scene)).2.2.recorded (before ++ journal)) := by
  match result with
  | .answered (.ok file) =>
    obtain ⟨journal, opening, serves, recorded⟩ := adoptFile_journal { caller with scene } session held path file
    refine ⟨_, opening, rfl, (Goes.of_trail (.once opened)).append serves, fun before => ?_⟩
    have adopted := recorded (before ++ [.openFile session path (.ok file) held])
    rw [List.append_assoc] at adopted
    exact congrArg (fun got : Option engine.File × Caller engine.recorded.World => (got.1, some held, got.2)) adopted
  | .answered (.error status) =>
    refine ⟨_, .unopened (by intro _ same; cases same), rfl, .once opened (Goes.record _ (.failed status)), fun before => ?_⟩
    exact congrArg (fun after => (none, some held, after)) (record_recorded { caller with scene } (.failed status) _)
  | .panicked payload =>
    refine ⟨_, .unopened (by intro _ same; cases same), rfl, .once opened (Goes.record _ (.panicked payload)), fun before => ?_⟩
    exact congrArg (fun after => (none, some held, after)) (record_recorded { caller with scene } (.panicked payload) _)

theorem openFile_journal (caller : Caller engine.World) (session : Option engine.Session) (path : Given) :
    ∃ journal, Acts (none, session) (Opened caller.slots.fileObserver) caller (openable session path) journal
        ((caller.openFile session path).1, (caller.openFile session path).2.1) (caller.openFile session path).2.2 ∧
      ∀ before, @openFile engine.recorded (caller.recorded before) session path =
        ((caller.openFile session path).1, (caller.openFile session path).2.1,
          (caller.openFile session path).2.2.recorded (before ++ journal)) := by
  cases session with
  | none =>
    exact ⟨[], .refused .nullSession,
      fun before => congrArg (fun after => (none, none, after)) (refused_recorded caller _ before)⟩
  | some session =>
    cases given : requiredText "path" path with
    | error fault =>
      have refuses : openable (some session) path = .error fault := congrArg (Except.map _) given
      refine ⟨[], ?_, fun before => ?_⟩
      · rw [refuses]
        simp only [openFile, given]
        exact .refused fault
      · simp only [openFile, given]
        exact congrArg (fun after => (none, some session, after)) (refused_recorded caller _ before)
    | ok text =>
      have opens : openable (some session) path = .ok (session, text) := congrArg (Except.map _) given
      let got := engine.openFile session text caller.scene
      have opened : (Engine.Exchange.openFile session text got.1 got.2.1).Happens caller.scene got.2.2 := rfl
      obtain ⟨journal, opening, left, serves, recorded⟩ := caller.taking_journal opened
      rw [opens, openFile_taking caller session given]
      refine ⟨journal, .asked ⟨got.2.1, opening, left⟩ serves, fun before => ?_⟩
      exact (@openFile_taking engine.recorded (caller.recorded before) session path text given).trans (recorded before)

end Caller

/-- How an operation on a file shows in a journal. -/
structure Shows {α β : Type} (exchange : engine.File → β → Result α → engine.File → engine.Exchange)
    (operation : engine.File → β → Scene engine.World → Result α × engine.File × Scene engine.World)
    (recorded : engine.File → β → Scene (Recorded engine) → Result α × engine.File × Scene (Recorded engine)) :
    Prop where
  happens : ∀ held argument scene, (exchange held argument (operation held argument scene).1
    (operation held argument scene).2.1).Happens scene (operation held argument scene).2.2
  errors : ∀ held argument scene, (exchange held argument (operation held argument scene).1
    (operation held argument scene).2.1).errors = errorsOf (resulting (operation held argument scene).1)
  recorded : ∀ held argument scene before, recorded held argument (scene.recorded before) =
    ((operation held argument scene).1, (operation held argument scene).2.1,
      (operation held argument scene).2.2.recorded (before ++
        [exchange held argument (operation held argument scene).1 (operation held argument scene).2.1]))

namespace Caller

/-- What a thread makes of the result of a use. -/
def putBack {α : Type} (slots : Slots) (got : Result α × engine.File × Scene engine.World) :
    Option α × Option engine.File × Caller engine.World :=
  let (answer, after) := (Caller.mk slots got.2.2).settle got.1
  (answer, some got.2.1, after)

theorem putBack_recorded {α : Type} (slots : Slots) (got : Result α × engine.File × Scene engine.World)
    (before : List engine.Exchange) :
    @putBack engine.recorded α slots (got.1, got.2.1, got.2.2.recorded before) =
      ((putBack slots got).1, (putBack slots got).2.1, (putBack slots got).2.2.recorded before) :=
  congrArg (fun ended : Option α × Caller engine.recorded.World => (ended.1, some got.2.1, ended.2))
    (settle_recorded ⟨slots, got.2.2⟩ got.1 before)

theorem useFile_journal {α β : Type} (caller : Caller engine.World) (session : Option engine.Session)
    (file : Option engine.File) (arguments : Except Fault β)
    {exchange : engine.File → β → Result α → engine.File → engine.Exchange}
    {operation : engine.File → β → Scene engine.World → Result α × engine.File × Scene engine.World}
    {recorded : engine.File → β → Scene (Recorded engine) → Result α × engine.File × Scene (Recorded engine)}
    (shows : Shows exchange operation recorded) :
    ∃ journal, Acts (none, file) (Used exchange) caller (usable session file arguments) journal
        ((caller.useFile session file arguments operation).1, (caller.useFile session file arguments operation).2.1)
        (caller.useFile session file arguments operation).2.2 ∧
      ∀ before, @useFile engine.recorded β α (caller.recorded before) session file arguments recorded =
        ((caller.useFile session file arguments operation).1, (caller.useFile session file arguments operation).2.1,
          (caller.useFile session file arguments operation).2.2.recorded (before ++ journal)) := by
  have refused (fault : Fault) (before : List engine.Exchange) :
      (none, file, (caller.recorded before).record (.refused fault)) =
        ((none : Option α), file, (caller.record (.refused fault)).recorded (before ++ [])) :=
    congrArg (fun after => (none, file, after)) (refused_recorded caller fault before)
  match session, file, arguments with
  | none, _, _ => exact ⟨[], .refused _, refused _⟩
  | some session, none, _ => exact ⟨[], .refused _, refused _⟩
  | some session, some held, .error fault => exact ⟨[], .refused _, refused _⟩
  | some session, some held, .ok argument =>
    let got := operation held argument caller.scene
    have settles : Goes [] (exchange held argument got.1 got.2.1).errors { caller with scene := got.2.2 }
        (putBack caller.slots got).2.2 := by
      rw [shows.errors]
      exact Goes.settle _ got.1
    refine ⟨[exchange held argument got.1 got.2.1],
      .asked ⟨got.1, got.2.1, rfl, congrArg (·, some got.2.1) (Settles.settle ..).answer⟩
        (.once (shows.happens ..) settles), fun before => ?_⟩
    have asks := congrArg (@putBack engine.recorded α caller.slots) (shows.recorded held argument caller.scene before)
    exact asks.trans (putBack_recorded caller.slots got _)

theorem close_journal (caller : Caller engine.World) (session : Option engine.Session) (file : Option engine.File) :
    ∃ journal, Acts (none, file) Closed caller (checkedFile session file) journal
        ((caller.close session file).1, (caller.close session file).2.1) (caller.close session file).2.2 ∧
      ∀ before, @close engine.recorded (caller.recorded before) session file =
        ((caller.close session file).1, (caller.close session file).2.1,
          (caller.close session file).2.2.recorded (before ++ journal)) := by
  have refused (fault : Fault) (before : List engine.Exchange) :
      (none, file, (caller.recorded before).record (.refused fault)) =
        ((none : Option Unit), file, (caller.record (.refused fault)).recorded (before ++ [])) :=
    congrArg (fun after => (none, file, after)) (refused_recorded caller fault before)
  match session, file with
  | none, _ => exact ⟨[], .refused _, refused _⟩
  | some session, none => exact ⟨[], .refused _, refused _⟩
  | some session, some held =>
    let got := engine.dropFile held caller.scene
    have released : (Engine.Exchange.dropFile held got.1).Happens caller.scene got.2 := rfl
    refine ⟨[.dropFile held got.1], .asked ⟨⟨got.1, rfl, (Settles.finish ..).answer⟩, rfl⟩
      (.once released (Goes.finish _ got.1)), fun before => ?_⟩
    have finishes := finish_recorded { caller with scene := got.2 } got.1 (before ++ [.dropFile held got.1])
    exact congrArg (fun ended : Option Unit × Caller engine.recorded.World => (ended.1, none, ended.2)) finishes

end Caller

section
variable (engine)

theorem shows_read : @Shows engine _ _ .read engine.read engine.recorded.read :=
  ⟨fun _ _ _ => rfl, fun _ _ _ => errorsOf_map .., fun _ _ _ _ => rfl⟩

theorem shows_readAt :
    @Shows engine _ _ (fun held place => .readAt held place.2 place.1) Caller.readingAt
      (@Caller.readingAt engine.recorded) :=
  ⟨fun _ _ _ => rfl, fun _ _ _ => errorsOf_map .., fun _ _ _ _ => rfl⟩

theorem shows_seek {β : Type} (target : β → SeekTarget) :
    @Shows engine _ _ (fun held argument => .seek held (target argument))
      (fun held argument => engine.seek held (target argument))
      (fun held argument => engine.recorded.seek held (target argument)) :=
  ⟨fun _ _ _ => rfl, fun _ _ _ => errorsOf_map .., fun _ _ _ _ => rfl⟩

theorem shows_cancel :
    @Shows engine _ _ (fun held () result => .cancel held (result.map fun _ => ())) Caller.canceling
      (@Caller.canceling engine.recorded) := by
  have undone (reply : Reply Unit) : reply = (reply.map Except.ok : Result Unit).map fun _ => () := by
    cases reply <;> rfl
  have silent (reply : Reply Unit) : errorsOf (finished reply) = errorsOf (resulting (reply.map Except.ok)) := by
    cases reply <;> rfl
  refine ⟨fun held _ scene => ?_, fun held _ scene => ?_, fun held _ scene before => ?_⟩
  · have got := undone (engine.cancel held scene).1
    exact congrArg (fun reply => (reply, (engine.cancel held scene).2)) got
  · have got := undone (engine.cancel held scene).1
    exact (congrArg (fun reply => errorsOf (finished reply)) got.symm).trans (silent _)
  · let kept (reply : Reply Unit) : Result Unit × engine.File × Scene (Recorded engine) :=
      ((engine.cancel held scene).1.map .ok, (engine.cancel held scene).2.1,
        (engine.cancel held scene).2.2.recorded (before ++ [.cancel held reply (engine.cancel held scene).2.1]))
    exact congrArg kept (undone (engine.cancel held scene).1)

end

end Boundary
end DfsClient
