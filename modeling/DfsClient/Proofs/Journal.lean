import DfsClient.Proofs.CallOutcome
import DfsClient.Proofs.Surroundings

/-! The journal of a call: all that passes between it and an engine. An engine that keeps a journal goes as
it would without one. What a thread goes through in a call is a trail of exchanges, notes and reports, and
the reports are those of the exchanges that failed. -/

namespace DfsClient
open Boundary

/-- One exchange with an engine: of what it was asked something, what it was asked, what it answered, and
what it gave back to go on with. -/
inductive Engine.Exchange (engine : Engine) where
  | newService (reply : Reply engine.Service)
  | newSession (service : engine.Service) (user : String) (options : Options)
      (reply : Reply (Option engine.Session))
  | observeSession (session : engine.Session) (observer : Observer) (reply : Reply Unit) (held : engine.Session)
  | connect (session : engine.Session) (host service : String) (result : Result Unit) (held : engine.Session)
  | connectDefault (session : engine.Session) (result : Result Unit) (held : engine.Session)
  | openFile (session : engine.Session) (path : String) (result : Result engine.File) (held : engine.Session)
  | dropSession (session : engine.Session) (reply : Reply Unit)
  | abandonSession (session : engine.Session)
  | observeFile (file : engine.File) (observer : Observer) (reply : Reply Unit) (held : engine.File)
  | read (file : engine.File) (length : Nat) (result : Result Transfer) (held : engine.File)
  | readAt (file : engine.File) (length offset : Nat) (result : Result Transfer) (held : engine.File)
  | seek (file : engine.File) (target : SeekTarget) (result : Result Nat) (held : engine.File)
  | cancel (file : engine.File) (reply : Reply Unit) (held : engine.File)
  | dropFile (file : engine.File) (reply : Reply Unit)
  | abandonFile (file : engine.File)

/-- What comes of asking for a session, which an engine may not have. -/
def Boundary.created {α : Type} : Reply (Option α) → Except Failure α
  | .answered (some session) => .ok session
  | .answered none => .error (.refused .noSession)
  | .panicked payload => .error (.panicked payload)

variable {engine : Engine}

namespace Engine.Exchange

/-- In the one scene the engine answers just so, and leaves the other. -/
def Happens (before after : Scene engine.World) : engine.Exchange → Prop
  | .newService reply => engine.newService before = (reply, after)
  | .newSession service user options reply => engine.newSession service user options before = (reply, after)
  | .observeSession session observer reply held =>
    engine.observeSession session observer before = (reply, held, after)
  | .connect session host service result held =>
    engine.connect session host service before = (result, held, after)
  | .connectDefault session result held => engine.connectDefault session before = (result, held, after)
  | .openFile session path result held => engine.openFile session path before = (result, held, after)
  | .dropSession session reply => engine.dropSession session before = (reply, after)
  | .abandonSession session => engine.abandonSession session before = after
  | .observeFile file observer reply held => engine.observeFile file observer before = (reply, held, after)
  | .read file length result held => engine.read file length before = (result, held, after)
  | .readAt file length offset result held => engine.readAt file length offset before = (result, held, after)
  | .seek file target result held => engine.seek file target before = (result, held, after)
  | .cancel file reply held => engine.cancel file before = (reply, held, after)
  | .dropFile file reply => engine.dropFile file before = (reply, after)
  | .abandonFile file => engine.abandonFile file before = after

/-- What an exchange comes to for the caller. -/
def outcome : engine.Exchange → Except Failure Unit
  | .newService reply => (finished reply).map fun _ => ()
  | .newSession _ _ _ reply => (created reply).map fun _ => ()
  | .observeSession _ _ reply _ | .observeFile _ _ reply _ | .cancel _ reply _ => finished reply
  | .dropSession _ reply | .dropFile _ reply => finished reply
  | .connect _ _ _ result _ | .connectDefault _ result _ => resulting result
  | .openFile _ _ result _ => (resulting result).map fun _ => ()
  | .read _ _ result _ | .readAt _ _ _ result _ => (resulting result).map fun _ => ()
  | .seek _ _ result _ => (resulting result).map fun _ => ()
  | .abandonSession _ | .abandonFile _ => .ok ()

def errors (exchange : engine.Exchange) : List LastError := errorsOf exchange.outcome

/-- The payload of the panic in which an exchange ended, if it did. -/
def panic? (exchange : engine.Exchange) : Option Payload :=
  match exchange.outcome with
  | .error (.panicked payload) => some payload
  | _ => none

end Engine.Exchange

/-- The errors of the exchanges that failed, in their order. -/
def errorsIn (journal : List engine.Exchange) : List LastError := journal.flatMap Engine.Exchange.errors

def panicsIn (journal : List engine.Exchange) : List Payload := journal.filterMap Engine.Exchange.panic?

theorem errorsIn_append (first second : List engine.Exchange) :
    errorsIn (first ++ second) = errorsIn first ++ errorsIn second := List.flatMap_append

theorem errorsIn_cons (exchange : engine.Exchange) (rest : List engine.Exchange) :
    errorsIn (exchange :: rest) = exchange.errors ++ errorsIn rest := List.flatMap_cons

theorem errorsIn_singleton (exchange : engine.Exchange) : errorsIn [exchange] = exchange.errors := List.append_nil _

theorem panicsIn_append (first second : List engine.Exchange) :
    panicsIn (first ++ second) = panicsIn first ++ panicsIn second := List.filterMap_append

/-- The errors of an outcome do not depend on what it answers. -/
theorem errorsOf_map {α β : Type} (found : Except Failure α) (value : α → β) :
    errorsOf (found.map value) = errorsOf found := by
  cases found with
  | ok answer => rfl
  | error failure => rfl

/-- The way from one scene to another: the engine is asked, something is noted, or an error is reported.
Nothing else acts on a scene. -/
inductive Trail :
    Scene engine.World → List engine.Exchange → List LastError → Scene engine.World → Prop
  | rest (scene : Scene engine.World) : Trail scene [] [] scene
  | asks {scene between last : Scene engine.World} {exchange : engine.Exchange}
      {journal : List engine.Exchange} {errors : List LastError} (happens : exchange.Happens scene between)
      (further : Trail between journal errors last) : Trail scene (exchange :: journal) errors last
  | notes {scene last : Scene engine.World} {journal : List engine.Exchange} {errors : List LastError}
      {note : Trace} (plain : note.isReport = false) (further : Trail (scene.trace note) journal errors last) :
      Trail scene journal errors last
  | reports {scene last : Scene engine.World} {journal : List engine.Exchange} {errors : List LastError}
      {error : LastError} (further : Trail (scene.trace (Caller.reportNote error)) journal errors last) :
      Trail scene journal (error :: errors) last

namespace Trail

variable {scene between last : Scene engine.World} {journal journal' : List engine.Exchange}
  {errors errors' : List LastError}

theorem append (first : Trail scene journal errors between) (second : Trail between journal' errors' last) :
    Trail scene (journal ++ journal') (errors ++ errors') last := by
  induction first with
  | rest => exact second
  | asks happens _ ih => exact .asks happens (ih second)
  | notes plain _ ih => exact .notes plain (ih second)
  | reports _ ih => exact .reports (ih second)

theorem once {exchange : engine.Exchange} (happens : exchange.Happens scene last) :
    Trail scene [exchange] [] last :=
  .asks happens (.rest last)

/-- Whatever is on the trail happened in some scene. -/
theorem happens (trail : Trail scene journal errors last) {exchange : engine.Exchange} (member : exchange ∈ journal) :
    ∃ before after, exchange.Happens before after := by
  induction trail with
  | rest => cases member
  | @asks _ between _ first _ _ happens _ ih =>
    obtain rfl | later := List.mem_cons.mp member
    · exact ⟨_, between, happens⟩
    · exact ih later
  | notes _ _ ih => exact ih member
  | reports _ ih => exact ih member

theorem traceAll (scene : Scene engine.World) (notes : List Trace)
    (plain : ∀ note ∈ notes, note.isReport = false) : Trail scene [] [] (scene.traceAll notes) := by
  induction notes generalizing scene with
  | nil => exact .rest scene
  | cons first rest ih =>
    obtain ⟨this, others⟩ := List.forall_mem_cons.mp plain
    exact .notes this (ih (scene.trace first) others)

end Trail

/-- The world of an engine with its journal. -/
structure Recorded (engine : Engine) where
  world : engine.World
  journal : List engine.Exchange

namespace Scene

def recorded (scene : Scene engine.World) (journal : List engine.Exchange) : Scene (Recorded engine) :=
  ⟨scene.ambient, scene.world, journal⟩

/-- The scene as an engine finds it that keeps no journal. -/
def bare (scene : Scene (Recorded engine)) : Scene engine.World := ⟨scene.ambient, scene.world.world⟩

end Scene

namespace Engine

def recording {α : Type} (exchange : α → engine.Exchange) (operation : Scene engine.World → α × Scene engine.World)
    (scene : Scene (Recorded engine)) : α × Scene (Recorded engine) :=
  let (reply, after) := operation scene.bare
  (reply, after.recorded (scene.world.journal ++ [exchange reply]))

def recordingOn {α β : Type} (exchange : α → β → engine.Exchange)
    (operation : Scene engine.World → α × β × Scene engine.World) (scene : Scene (Recorded engine)) :
    α × β × Scene (Recorded engine) :=
  let (reply, held, after) := operation scene.bare
  (reply, held, after.recorded (scene.world.journal ++ [exchange reply held]))

def recordingRelease (exchange : engine.Exchange) (operation : Scene engine.World → Scene engine.World)
    (scene : Scene (Recorded engine)) : Scene (Recorded engine) :=
  (operation scene.bare).recorded (scene.world.journal ++ [exchange])

/-- The engine with a journal. -/
def recorded (engine : Engine) : Engine where
  World := Recorded engine
  Service := engine.Service
  Session := engine.Session
  File := engine.File
  newService := recording .newService engine.newService
  newSession service user options :=
    recording (.newSession service user options) (engine.newSession service user options)
  observeSession session observer :=
    recordingOn (.observeSession session observer) (engine.observeSession session observer)
  connect session host service :=
    recordingOn (.connect session host service) (engine.connect session host service)
  connectDefault session := recordingOn (.connectDefault session) (engine.connectDefault session)
  openFile session path := recordingOn (.openFile session path) (engine.openFile session path)
  dropSession session := recording (.dropSession session) (engine.dropSession session)
  abandonSession session := recordingRelease (.abandonSession session) (engine.abandonSession session)
  observeFile file observer := recordingOn (.observeFile file observer) (engine.observeFile file observer)
  read file length := recordingOn (.read file length) (engine.read file length)
  readAt file length offset := recordingOn (.readAt file length offset) (engine.readAt file length offset)
  seek file target := recordingOn (.seek file target) (engine.seek file target)
  cancel file := recordingOn (.cancel file) (engine.cancel file)
  dropFile file := recording (.dropFile file) (engine.dropFile file)
  abandonFile file := recordingRelease (.abandonFile file) (engine.abandonFile file)

end Engine

end DfsClient
