import DfsClient.Proofs.Lockstep
import DfsClient.Proofs.Requests

/-! Two runs of the same calls in surroundings that differ. Where an engine takes related surroundings
to related ones and answers alike in both, a whole call does. What relates them is up to the reader:
it has to outlast whatever happens to both of them alike. -/

namespace DfsClient
open Boundary

/-- The form in which a record shows among the diagnostics. -/
def Trace.isRecord (trace : Trace) : Bool := trace.fields.head?.map Prod.fst == some "component"

theorem Config.isRecord_loadDefaults [Formats] (tree : FileTree) (path : SearchPath) :
    ∀ note ∈ (loadDefaults tree path).2, note.isRecord = false :=
  forall_notes_layer (fun _ => rfl) (fun _ => rfl) (fun _ => rfl) tree path defaultResources {} nofun

/-- Things with surroundings in them, which can be put into others. -/
class Surrounded (τ : Type) where
  ambient : τ → Ambient
  within : τ → Ambient → τ

export Surrounded (ambient within)

instance : Surrounded Ambient := ⟨id, fun _ ambient => ambient⟩

instance {World : Type} : Surrounded (Scene World) := ⟨Scene.ambient, fun scene ambient => { scene with ambient }⟩

instance {World : Type} : Surrounded (Caller World) :=
  ⟨fun caller => ambient caller.scene, fun caller ambient => { caller with scene := within caller.scene ambient }⟩

instance {engine : Engine} : Surrounded (Client engine) :=
  ⟨fun client => ambient client.scene, fun client ambient => { client with scene := within client.scene ambient }⟩

/-- An outcome is surrounded by what surrounds its last part. -/
instance {α τ : Type} [Surrounded τ] : Surrounded (α × τ) :=
  ⟨fun got => ambient got.2, fun got ambient => (got.1, within got.2 ambient)⟩

section
variable {α σ τ : Type} [Surrounded σ] [Surrounded τ]

/-- Two things alike but for their surroundings, which are related. -/
def Twins (related : Ambient → Ambient → Prop) (one other : τ) : Prop :=
  ∃ ambient', related (ambient one) ambient' ∧ other = within one ambient'

/-- What makes twins of twins. -/
def Carries (related : Ambient → Ambient → Prop) (operation : σ → τ) : Prop :=
  ∀ ⦃one other⦄, Twins related one other → Twins related (operation one) (operation other)

variable {related : Ambient → Ambient → Prop}

theorem Twins.of (one : τ) {ambient' : Ambient} (alike : related (ambient one) ambient') :
    Twins related one (within one ambient') :=
  ⟨ambient', alike, rfl⟩

theorem Twins.pair (value : α) {one other : τ} (twins : Twins related one other) :
    Twins related (value, one) (value, other) := by
  obtain ⟨ambient', related, rfl⟩ := twins
  exact ⟨ambient', related, rfl⟩

theorem Twins.split {got got' : α × τ} (twins : Twins related got got') :
    got'.1 = got.1 ∧ Twins related got.2 got'.2 := by
  obtain ⟨ambient', related, rfl⟩ := twins
  exact ⟨rfl, ambient', related, rfl⟩

/-- What holds of every answer left in surroundings that are related holds of twins. -/
@[elab_as_elim]
theorem Twins.elim {motive : α × τ → α × τ → Prop} {got got' : α × τ} (twins : Twins related got got')
    (alike : ∀ value left, ∀ ambient', related (ambient left) ambient' →
      motive (value, left) (value, within left ambient')) : motive got got' := by
  obtain ⟨ambient', still, rfl⟩ := twins
  exact alike got.1 got.2 ambient' still

theorem Twins.map {β : Type} (view : α → β) {got got' : α × τ} (twins : Twins related got got') :
    Twins related (view got.1, got.2) (view got'.1, got'.2) := by
  obtain ⟨ambient', related, rfl⟩ := twins
  exact ⟨ambient', related, rfl⟩

/-- What is done next to the surroundings, with the answer kept. -/
theorem Twins.onward {ρ : Type} [Surrounded ρ] {next : τ → ρ} (carries : Carries related next)
    {got got' : α × τ} (twins : Twins related got got') : Twins related (got.1, next got.2) (got'.1, next got'.2) := by
  obtain ⟨same, left⟩ := twins.split
  rw [same]
  exact (carries left).pair _

/-- Something that is the same in both may stand between. -/
theorem Twins.beside {β : Type} (held : β) {got got' : α × τ} (twins : Twins related got got') :
    Twins related (got.1, held, got.2) (got'.1, held, got'.2) := by
  obtain ⟨ambient', related, rfl⟩ := twins
  exact ⟨ambient', related, rfl⟩

end

/-- A relation that outlasts what happens to both surroundings alike: notes, records, events and
requests. A diagnostic in the form of a record is no note. -/
structure Ambient.Steady (related : Ambient → Ambient → Prop) : Prop where
  note : ∀ note : Trace, note.isRecord = false → Carries related fun ambient : Ambient => ambient.trace note
  log : ∀ level component message,
    Carries related fun ambient : Ambient => ambient.log level component message
  tell : ∀ observer event, Carries related fun ambient : Ambient => ambient.tell? observer event
  request : ∀ request, Carries related fun ambient : Ambient => ambient.emit (.requested request)

/-- The methods of an engine make twins of twins. -/
structure Engine.Respects (engine : Engine) (related : Ambient → Ambient → Prop) : Prop where
  newService : Carries related engine.newService
  newSession : ∀ service user options, Carries related (engine.newSession service user options)
  observeSession : ∀ session observer, Carries related (engine.observeSession session observer)
  connect : ∀ session host service, Carries related (engine.connect session host service)
  connectDefault : ∀ session, Carries related (engine.connectDefault session)
  openFile : ∀ session path, Carries related (engine.openFile session path)
  dropSession : ∀ session, Carries related (engine.dropSession session)
  abandonSession : ∀ session, Carries related (engine.abandonSession session)
  observeFile : ∀ file observer, Carries related (engine.observeFile file observer)
  read : ∀ file length, Carries related (engine.read file length)
  readAt : ∀ file length offset, Carries related (engine.readAt file length offset)
  seek : ∀ file target, Carries related (engine.seek file target)
  cancel : ∀ file, Carries related (engine.cancel file)
  dropFile : ∀ file, Carries related (engine.dropFile file)
  abandonFile : ∀ file, Carries related (engine.abandonFile file)

variable {related : Ambient → Ambient → Prop}

theorem twins_ambient {one other : Ambient} : Twins related one other ↔ related one other := by
  constructor
  · rintro ⟨ambient', alike, rfl⟩
    exact alike
  · exact fun alike => ⟨other, alike, rfl⟩

namespace Scene

variable {World : Type}

/-- What is done to the surroundings of a scene. -/
theorem surround_carries {operation : Ambient → Ambient} (carries : Carries related operation) :
    Carries related fun scene : Scene World => { scene with ambient := operation scene.ambient } := by
  rintro scene - ⟨ambient', alike, rfl⟩
  obtain ⟨after', alike, same⟩ := carries ⟨ambient', alike, rfl⟩
  exact ⟨after', alike, congrArg (Scene.mk · scene.world) same⟩

theorem trace_carries (steady : Ambient.Steady related) {note : Trace} (other : note.isRecord = false) :
    Carries related fun scene : Scene World => scene.trace note :=
  surround_carries (steady.note note other)

theorem traceAll_carries (steady : Ambient.Steady related) (notes : List Trace)
    (others : ∀ note ∈ notes, note.isRecord = false) :
    Carries related fun scene : Scene World => scene.traceAll notes := by
  induction notes with
  | nil => exact fun _ _ twins => twins
  | cons first rest ih =>
    intro scene scene' twins
    exact ih (fun note member => others note (List.mem_cons_of_mem _ member))
      (trace_carries steady (others first List.mem_cons_self) twins)

theorem log_carries (steady : Ambient.Steady related) (level : Log.Level) (component : Log.Component)
    (message : String) : Carries related fun scene : Scene World => scene.log level component message :=
  surround_carries (steady.log level component message)

theorem tell?_carries (steady : Ambient.Steady related) (observer : Option Observer) (event : Event) :
    Carries related fun scene : Scene World => scene.tell? observer event := by
  rintro scene - ⟨ambient', alike, rfl⟩
  obtain ⟨after', alike, same⟩ := steady.tell observer event ⟨ambient', alike, rfl⟩
  exact ⟨after', alike, congrArg (fun told : Response × Ambient => (told.1, Scene.mk told.2 scene.world)) same⟩

end Scene

namespace Boundary.Caller

variable {World : Type}

/-- A thread with the same slots in two scenes. -/
theorem goes_on (slots : Slots) {scene scene' : Scene World} (twins : Twins related scene scene') :
    Twins related (Caller.mk slots scene) ⟨slots, scene'⟩ := by
  obtain ⟨ambient', alike, rfl⟩ := twins
  exact ⟨ambient', alike, rfl⟩

theorem parts {caller caller' : Caller World} (twins : Twins related caller caller') :
    caller.slots = caller'.slots ∧ Twins related caller.scene caller'.scene := by
  obtain ⟨ambient', alike, rfl⟩ := twins
  exact ⟨rfl, ambient', alike, rfl⟩

variable (steady : Ambient.Steady related)
include steady

theorem record_carries (failure : Failure) :
    Carries related fun caller : Caller World => caller.record failure := by
  intro caller caller' twins
  dsimp only
  rw [record_eq, record_eq]
  cases failure.error? with
  | none => exact twins
  | some error =>
    obtain ⟨slots, scenes⟩ := parts twins
    unfold reportAll
    rw [← slots]
    exact goes_on _ (Scene.trace_carries steady rfl scenes)

theorem accept_carries {α : Type} (result : Except Fault α) :
    Carries related fun caller : Caller World => caller.accept result := by
  intro caller caller' twins
  cases result with
  | ok value => exact twins.pair _
  | error fault => exact (record_carries steady _ twins).pair _

/-- What a thread makes of a result that comes with a scene. -/
theorem settle_carries {α : Type} (slots : Slots) :
    Carries related fun got : Result α × Scene World => (Caller.mk slots got.2).settle got.1 := by
  rintro ⟨result, scene⟩ - ⟨ambient', alike, rfl⟩
  have left := goes_on slots (.of scene alike)
  match result with
  | .answered (.ok answer) => exact left.pair _
  | .answered (.error status) => exact (record_carries steady _ left).pair _
  | .panicked payload => exact (record_carries steady _ left).pair _

theorem finish_carries {α : Type} (slots : Slots) :
    Carries related fun got : Reply α × Scene World => (Caller.mk slots got.2).finish got.1 := by
  rintro ⟨reply, scene⟩ - ⟨ambient', alike, rfl⟩
  have left := goes_on slots (.of scene alike)
  cases reply with
  | answered answer => exact left.pair _
  | panicked payload => exact (record_carries steady _ left).pair _

theorem loading_carries [Formats] (tree : Config.FileTree) (path : Config.SearchPath) :
    Carries related fun caller : Caller World => caller.loading tree path := by
  rintro ⟨slots, scene⟩ ⟨slots', scene'⟩ twins
  obtain ⟨rfl, scenes⟩ := parts twins
  have noted := Scene.traceAll_carries steady _ (Config.isRecord_loadDefaults tree path) scenes
  exact finish_carries steady slots (noted.pair (Builder.load tree path scene).1)

end Boundary.Caller

namespace Engine.Respects

variable {engine : Engine} (respects : engine.Respects related)
include respects

theorem createSession (user : String) (options : Options) : Carries related (engine.createSession user options) := by
  intro scene scene' twins
  have made := respects.newService twins
  unfold Engine.createSession
  refine made.elim fun reply after ambient' alike => ?_
  cases reply with
  | panicked payload => exact ⟨ambient', alike, rfl⟩
  | answered service => exact respects.newSession service user options ⟨ambient', alike, rfl⟩

theorem attach (session : engine.Session) (observer : Option Observer) :
    Carries related (Boundary.observeSession session observer) := by
  intro scene scene' twins
  cases observer with
  | none => exact (twins.pair _).pair _
  | some observer => exact respects.observeSession session observer twins

theorem attachFile (file : engine.File) (observer : Option Observer) :
    Carries related (Boundary.observeFile file observer) := by
  intro scene scene' twins
  cases observer with
  | none => exact (twins.pair _).pair _
  | some observer => exact respects.observeFile file observer twins

theorem discard (surplus : Option engine.Session) :
    Carries related fun scene : Scene engine.World =>
      match surplus with
      | some old => (engine.dropSession old scene).2
      | none => scene := by
  intro scene scene' twins
  cases surplus with
  | none => exact twins
  | some old => exact (respects.dropSession old twins).split.2

theorem discardFile (surplus : Option engine.File) :
    Carries related fun scene : Scene engine.World =>
      match surplus with
      | some old => (engine.dropFile old scene).2
      | none => scene := by
  intro scene scene' twins
  cases surplus with
  | none => exact twins
  | some old => exact (respects.dropFile old twins).split.2

theorem reach (session : engine.Session) (endpoint : Endpoint) :
    Carries related (Boundary.reach session endpoint) := by
  cases endpoint with
  | defaultFs => exact respects.connectDefault session
  | explicit host port => exact respects.connect session host _

end Engine.Respects

namespace Boundary.Caller

variable {engine : Engine}

/-- What a thread makes of the result of an open. -/
def taking (slots : Slots) (got : Result engine.File × engine.Session × Scene engine.World) :
    Option engine.File × Option engine.Session × Caller engine.World :=
  match (Caller.mk slots got.2.2).settle got.1 with
  | (none, after) => (none, some got.2.1, after)
  | (some file, after) => ((after.adoptFile file).1, some got.2.1, (after.adoptFile file).2)

theorem openFile_taking (caller : Caller engine.World) (session : engine.Session) {path : Given} {text : String}
    (given : requiredText "path" path = .ok text) :
    caller.openFile (some session) path = taking caller.slots (engine.openFile session text caller.scene) := by
  simp only [openFile, given]
  rfl

variable (steady : Ambient.Steady related) (respects : engine.Respects related)

section
include steady respects

theorem abandonSession_carries (session : engine.Session) (payload : Payload) :
    Carries related fun caller : Caller engine.World => caller.abandonSession session payload := by
  rintro ⟨slots, scene⟩ ⟨slots', scene'⟩ twins
  obtain ⟨rfl, scenes⟩ := parts twins
  exact record_carries steady _ (goes_on slots (respects.abandonSession session scenes))

theorem abandonFile_carries (file : engine.File) (payload : Payload) :
    Carries related fun caller : Caller engine.World => caller.abandonFile file payload := by
  rintro ⟨slots, scene⟩ ⟨slots', scene'⟩ twins
  obtain ⟨rfl, scenes⟩ := parts twins
  exact record_carries steady _ (goes_on slots (respects.abandonFile file scenes))

theorem releaseSession_carries (session : engine.Session) :
    Carries related fun caller : Caller engine.World => caller.releaseSession session := by
  rintro ⟨slots, scene⟩ ⟨slots', scene'⟩ twins
  obtain ⟨rfl, scenes⟩ := parts twins
  exact finish_carries steady slots (respects.dropSession session scenes)

theorem concluding_carries (caller : Caller engine.World) :
    Carries related fun got : Result Unit × engine.Session × Scene engine.World => caller.concluding got := by
  rintro ⟨result, session, scene⟩ - ⟨ambient', alike, rfl⟩
  have left := goes_on caller.slots (.of scene alike)
  match result with
  | .answered (.ok ()) => exact left.pair _
  | .answered (.error status) =>
    have released := releaseSession_carries steady respects session (record_carries steady (.failed status) left)
    exact released.split.2.pair _
  | .panicked payload => exact (abandonSession_carries steady respects session payload left).pair _

end

/-- The notes of two connects to an endpoint keep up what relates the surroundings. -/
def NotedAlike (engine : Engine) (related : Ambient → Ambient → Prop) (endpoint : Endpoint)
    (user user' : Option String) : Prop :=
  ∀ ⦃one other : Scene engine.World⦄, Twins related one other →
    Twins related (one.trace (connectingNote endpoint user)) (other.trace (connectingNote endpoint user'))

include steady in
theorem notedAlike_same (endpoint : Endpoint) (user : Option String) :
    NotedAlike engine related endpoint user user := fun _ _ twins =>
  Scene.trace_carries steady rfl twins

include steady respects

theorem establish_carries {user user' : Option String} (session : engine.Session) (endpoint : Endpoint)
    (noted : NotedAlike engine related endpoint user user') {caller caller' : Caller engine.World}
    (twins : Twins related caller caller') :
    Twins related (caller.establish session endpoint user) (caller'.establish session endpoint user') := by
  obtain ⟨ambient', alike, rfl⟩ := twins
  have attached := respects.attach session caller.slots.sessionObserver (.of caller.scene alike)
  cases got : observeSession session caller.slots.sessionObserver caller.scene with
  | mk reply rest =>
    obtain ⟨held, scene⟩ := rest
    rw [got] at attached
    obtain ⟨after', alike, got'⟩ := attached
    cases reply with
    | panicked payload =>
      rw [establish_panicked caller session endpoint user got, establish_panicked _ session endpoint user' got']
      have left := goes_on caller.slots (.of scene alike)
      exact (abandonSession_carries steady respects held payload left).pair _
    | answered answer =>
      rw [establish_eq caller session endpoint user got, establish_eq _ session endpoint user' got']
      have reached := respects.reach held endpoint (noted (.of scene alike))
      exact concluding_carries steady respects caller reached

theorem connect_carries {user user' : Option String} (same : user.getD "" = user'.getD "") (endpoint : Endpoint)
    (options : Options) (noted : NotedAlike engine related endpoint user user')
    {caller caller' : Caller engine.World} (twins : Twins related caller caller') :
    Twins related (caller.connect endpoint user options) (caller'.connect endpoint user' options) := by
  obtain ⟨slots, scenes⟩ := parts twins
  have made := finish_carries steady caller.slots (respects.createSession (user.getD "") options scenes)
  unfold connect
  rw [← slots, ← same]
  dsimp only at made ⊢
  refine made.elim fun made after after' alike => ?_
  have left : Twins related after (within after after') := ⟨after', alike, rfl⟩
  match made with
  | none => exact left.pair _
  | some none => exact (record_carries steady _ left).pair _
  | some (some session) => exact establish_carries steady respects session endpoint noted left

theorem connectDirect_carries (host : Given) (port : UInt16) (user : Given) :
    Carries related fun caller : Caller engine.World => caller.connectDirect host port user := by
  intro caller caller' twins
  unfold connectDirect
  cases optionalText "nn" host with
  | error fault => exact (record_carries steady _ twins).pair _
  | ok host =>
    cases optionalText "user" user with
    | error fault => exact (record_carries steady _ twins).pair _
    | ok user => exact connect_carries steady respects rfl _ {} (notedAlike_same steady _ user) twins

theorem connectBuilder_carries [Formats] (builder : Option Builder) :
    Carries related fun caller : Caller engine.World => caller.connectBuilder builder := by
  rintro ⟨slots, scene⟩ ⟨slots', scene'⟩ twins
  cases builder with
  | none => exact (record_carries steady _ twins).pair _
  | some builder =>
    obtain ⟨rfl, scenes⟩ := parts twins
    have optioned : Twins related (scene.optionsOf builder.snapshot) (scene'.optionsOf builder.snapshot) := by
      refine Twins.pair _ (Scene.traceAll_carries steady _ (fun note member => ?_) scenes)
      split at member
      · rw [List.mem_singleton.mp member]
        rfl
      · cases member
    exact connect_carries steady respects rfl builder.endpoint _ (notedAlike_same steady _ builder.user)
      (goes_on slots optioned.split.2)

theorem disconnect_carries (session : Option engine.Session) :
    Carries related fun caller : Caller engine.World => caller.disconnect session := by
  intro caller caller' twins
  cases session with
  | none => exact (record_carries steady _ twins).pair _
  | some held => exact releaseSession_carries steady respects held twins

theorem adoptFile_carries (file : engine.File) :
    Carries related fun caller : Caller engine.World => caller.adoptFile file := by
  rintro ⟨slots, scene⟩ ⟨slots', scene'⟩ twins
  obtain ⟨rfl, scenes⟩ := parts twins
  have attached := respects.attachFile file slots.fileObserver scenes
  dsimp only [adoptFile]
  refine attached.elim fun reply (held, after) after' alike => ?_
  have left := goes_on slots (.of after alike)
  cases reply with
  | answered answer => exact left.pair _
  | panicked payload => exact (abandonFile_carries steady respects held payload left).pair _

theorem taking_carries (slots : Slots) :
    Carries related fun got : Result engine.File × engine.Session × Scene engine.World =>
      taking slots got := by
  rintro ⟨result, session, scene⟩ - ⟨ambient', alike, rfl⟩
  have left := goes_on slots (.of scene alike)
  match result with
  | .answered (.ok file) =>
    exact (adoptFile_carries steady respects file left).beside (some session)
  | .answered (.error status) => exact ((record_carries steady _ left).pair _).pair _
  | .panicked payload => exact ((record_carries steady _ left).pair _).pair _

theorem openFile_carries (session : Option engine.Session) (path : Given) :
    Carries related fun caller : Caller engine.World => caller.openFile session path := by
  rintro ⟨slots, scene⟩ ⟨slots', scene'⟩ twins
  cases session with
  | none => exact ((record_carries steady _ twins).pair _).pair _
  | some session =>
    cases given : requiredText "path" path with
    | error fault =>
      simp only [openFile, given]
      exact ((record_carries steady _ twins).pair _).pair _
    | ok text =>
      obtain ⟨rfl, scenes⟩ := parts twins
      have opened := taking_carries steady respects slots (respects.openFile session text scenes)
      simp only [openFile_taking _ session given]
      exact opened

omit respects in
theorem useFile_carries {α β : Type} (session : Option engine.Session) (file : Option engine.File)
    (arguments : Except Fault β)
    {operation : engine.File → β → Scene engine.World → Result α × engine.File × Scene engine.World}
    (carries : ∀ held argument, Carries related (operation held argument)) :
    Carries related fun caller : Caller engine.World => caller.useFile session file arguments operation := by
  rintro ⟨slots, scene⟩ ⟨slots', scene'⟩ twins
  unfold useFile
  cases checkedFile session file with
  | error fault => exact ((record_carries steady _ twins).pair _).pair _
  | ok held =>
    cases arguments with
    | error fault => exact ((record_carries steady _ twins).pair _).pair _
    | ok argument =>
      obtain ⟨rfl, scenes⟩ := parts twins
      have used := carries held argument scenes
      dsimp only
      refine used.elim fun result (held, after) after' alike => ?_
      exact (settle_carries steady slots (.of (result, after) alike)).beside (some held)

theorem read_carries (session : Option engine.Session) (file : Option engine.File) (length : Int32) (present : Bool) :
    Carries related fun caller : Caller engine.World => caller.read session file length present :=
  useFile_carries steady session file _ respects.read

theorem readAt_carries (session : Option engine.Session) (file : Option engine.File) (position : Int64)
    (length : Int32) (present : Bool) :
    Carries related fun caller : Caller engine.World => caller.readAt session file position length present :=
  useFile_carries steady session file _ fun held place => respects.readAt held place.2 place.1

theorem seek_carries (session : Option engine.Session) (file : Option engine.File) (position : Int64) :
    Carries related fun caller : Caller engine.World => caller.seek session file position :=
  useFile_carries steady session file _ fun held start => respects.seek held (.start start)

theorem tell_carries (session : Option engine.Session) (file : Option engine.File) :
    Carries related fun caller : Caller engine.World => caller.tell session file :=
  useFile_carries steady session file _ fun held _ => respects.seek held (.current 0)

theorem cancel_carries (session : Option engine.Session) (file : Option engine.File) :
    Carries related fun caller : Caller engine.World => caller.cancel session file := by
  refine useFile_carries steady session file (.ok ()) fun held _ scene scene' twins => ?_
  exact (respects.cancel held twins).map (Reply.map Except.ok)

theorem close_carries (session : Option engine.Session) (file : Option engine.File) :
    Carries related fun caller : Caller engine.World => caller.close session file := by
  rintro ⟨slots, scene⟩ ⟨slots', scene'⟩ twins
  unfold close
  cases checkedFile session file with
  | error fault => exact ((record_carries steady _ twins).pair _).pair _
  | ok held =>
    obtain ⟨rfl, scenes⟩ := parts twins
    exact (finish_carries steady slots (respects.dropFile held scenes)).beside none

end Boundary.Caller

/-- The calls that set the filter or the sink. -/
def Call.setsLog : Call → Bool
  | .logTo _ | .filterLog _ => true
  | _ => false

namespace Client

variable {engine : Engine} {client client' : Client engine}

section
variable (twins : Twins related client client')
include twins

theorem caller_twins (thread : Nat) : Twins related (client.caller thread) (client'.caller thread) := by
  obtain ⟨ambient', alike, rfl⟩ := twins
  exact ⟨ambient', alike, rfl⟩

theorem resume_twins (thread : Nat) {caller caller' : Caller engine.World} (threads : Twins related caller caller') :
    Twins related (client.resume thread caller) (client'.resume thread caller') := by
  obtain ⟨ambient', alike, rfl⟩ := twins
  obtain ⟨after', alike, rfl⟩ := threads
  exact ⟨after', alike, rfl⟩

theorem replaceSession_twins (respects : engine.Respects related) (into : Handle) (session : Option engine.Session) :
    Twins related (client.replaceSession into session) (client'.replaceSession into session) := by
  obtain ⟨ambient', alike, rfl⟩ := twins
  obtain ⟨after', alike, same⟩ := respects.discard (client.sessions.surplus into session) (.of client.scene alike)
  refine ⟨after', alike, ?_⟩
  exact congrArg (fun scene => { client with scene, sessions := client.sessions.update into session }) same

theorem replaceFile_twins (respects : engine.Respects related) (into : Handle) (file : Option engine.File) :
    Twins related (client.replaceFile into file) (client'.replaceFile into file) := by
  obtain ⟨ambient', alike, rfl⟩ := twins
  obtain ⟨after', alike, same⟩ := respects.discardFile (client.files.surplus into file) (.of client.scene alike)
  refine ⟨after', alike, ?_⟩
  exact congrArg (fun scene => { client with scene, files := client.files.update into file }) same

/-- What a client makes of the session that a thread got. -/
theorem connected_twins (respects : engine.Respects related) (thread : Nat) (into : Handle)
    {got got' : Option engine.Session × Caller engine.World} (made : Twins related got got') :
    Twins related
      (Answer.handle got.1.isSome, (client.resume thread got.2).replaceSession into got.1)
      (Answer.handle got'.1.isSome, (client'.resume thread got'.2).replaceSession into got'.1) := by
  obtain ⟨same, threads⟩ := made.split
  rw [same]
  exact (replaceSession_twins (resume_twins twins thread threads) respects into got.1).pair _

/-- What a client makes of the file that a thread got. -/
theorem opened_twins (respects : engine.Respects related) (thread : Nat) (session into : Handle)
    {got got' : Option engine.File × Option engine.Session × Caller engine.World} (made : Twins related got got') :
    Twins related
      (Answer.handle got.1.isSome,
        Client.replaceFile
          { client.resume thread got.2.2 with sessions := client.sessions.update session got.2.1 } into got.1)
      (Answer.handle got'.1.isSome,
        Client.replaceFile
          { client'.resume thread got'.2.2 with sessions := client'.sessions.update session got'.2.1 }
          into got'.1) := by
  obtain ⟨ambient', alike, rfl⟩ := twins
  obtain ⟨after', alike, rfl⟩ := made
  refine Twins.pair _ (replaceFile_twins ?_ respects into got.1)
  exact ⟨after', alike, rfl⟩

/-- What a client makes of the builder that a thread loaded. -/
theorem loaded_twins (thread : Nat) (into : Handle) {got got' : Option Builder × Caller engine.World}
    (made : Twins related got got') :
    Twins related
      (Answer.handle got.1.isSome, (client.resume thread got.2).keepBuilder into got.1)
      (Answer.handle got'.1.isSome, (client'.resume thread got'.2).keepBuilder into got'.1) := by
  obtain ⟨ambient', alike, rfl⟩ := twins
  obtain ⟨after', alike, rfl⟩ := made
  exact ⟨after', alike, rfl⟩

theorem useFile_twins {α : Type} (thread : Nat) (session file : Handle) (answer : Option α → Answer)
    {operation : Caller engine.World → Option engine.Session → Option engine.File →
      Option α × Option engine.File × Caller engine.World}
    (carries : ∀ session file, Carries related fun caller => operation caller session file) :
    Twins related
      (answer (client.useFile thread session file operation).1, (client.useFile thread session file operation).2)
      (answer (client'.useFile thread session file operation).1,
        (client'.useFile thread session file operation).2) := by
  have used := carries (client.sessions.find? session) (client.files.find? file) (caller_twins twins thread)
  obtain ⟨ambient', alike, rfl⟩ := twins
  obtain ⟨after', alike, same⟩ := used
  refine ⟨after', alike, ?_⟩
  exact congrArg (fun got : Option α × Option engine.File × Caller engine.World =>
    (answer got.1, { client.resume thread got.2.2 with files := client.files.update file got.2.1 })) same

/-- What a client makes of the change of a builder. -/
theorem changed_twins (thread : Nat) (builder : Handle) (answer : Answer)
    {got got' : Option Builder × Caller engine.World} (made : Twins related got got') :
    Twins related
      (answer, match got.1 with
        | some changed => (client.resume thread got.2).keepBuilder builder (some changed)
        | none => client.resume thread got.2)
      (answer, match got'.1 with
        | some changed => (client'.resume thread got'.2).keepBuilder builder (some changed)
        | none => client'.resume thread got'.2) := by
  obtain ⟨ambient', alike, rfl⟩ := twins
  obtain ⟨changed, caller⟩ := got
  obtain ⟨after', alike, rfl⟩ := made
  cases changed with
  | none => exact ⟨after', alike, rfl⟩
  | some changed => exact ⟨after', alike, rfl⟩

theorem reportFault_twins {α : Type} (steady : Ambient.Steady related) (thread : Nat)
    {caller caller' : Caller engine.World} (threads : Twins related caller caller') (result : Except Fault α) :
    Twins related (client.reportFault thread caller result) (client'.reportFault thread caller' result) :=
  resume_twins twins thread (Caller.accept_carries steady result threads).split.2

/-- What a client makes of a builder that is loaded for one lookup. -/
theorem lookedUp_twins {α : Type} (steady : Ambient.Steady related) (thread : Nat) (look : Builder → Except Fault α)
    (answer : Except Fault α → Answer) (failed : Answer) {got got' : Option Builder × Caller engine.World} :
    Twins related got got' →
    Twins related
      (match got with
        | (none, caller) => (failed, client.resume thread caller)
        | (some builder, caller) => (answer (look builder), client.reportFault thread caller (look builder)))
      (match got' with
        | (none, caller) => (failed, client'.resume thread caller)
        | (some builder, caller) => (answer (look builder), client'.reportFault thread caller (look builder))) := by
  obtain ⟨loaded, caller⟩ := got
  rintro ⟨after', alike, rfl⟩
  have left : Twins related caller (within caller after') := ⟨after', alike, rfl⟩
  cases loaded with
  | none => exact (resume_twins twins thread left).pair _
  | some builder => exact (reportFault_twins twins steady thread left (look builder)).pair _

end

theorem directoryBuilder_carries [Formats] (steady : Ambient.Steady related) (client : Client engine)
    (directory : Given) :
    Carries related fun caller => client.directoryBuilder caller directory := by
  intro caller caller' twins
  cases given : requiredText "configDirectory" directory with
  | error fault =>
    simp only [directoryBuilder, given]
    exact (Caller.record_carries steady _ twins).pair _
  | ok text =>
    simp only [directoryBuilder_ok client _ given]
    exact Caller.loading_carries steady _ _ twins

variable (steady : Ambient.Steady related) (respects : engine.Respects related)
include steady respects

/-- Whatever relates the surroundings of two runs and outlasts what happens to both is kept up by a call
that does not set the log, and the call answers alike in both. -/
theorem call_carries [Formats] (thread : Nat) {call : Call} (other : call.setsLog = false) :
    Carries related fun client : Client engine => client.call thread call := by
  intro client client' twins
  have threads := caller_twins twins thread
  obtain ⟨ambient', alike, rfl⟩ := twins
  have twins : Twins related client (within client ambient') := ⟨ambient', alike, rfl⟩
  cases call with
  | connect host port user into =>
    exact connected_twins twins respects thread into
      (Caller.connectDirect_carries steady respects host port user threads)
  | connectBuilder builder into =>
    exact connected_twins twins respects thread into
      (Caller.connectBuilder_carries steady respects (client.builders.find? builder) threads)
  | disconnect session =>
    obtain ⟨after', alike, same⟩ := Caller.disconnect_carries steady respects (client.sessions.find? session) threads
    refine ⟨after', alike, ?_⟩
    exact congrArg (fun got : Option Unit × Caller engine.World =>
      (Answer.ofUnit got.1, { client.resume thread got.2 with sessions := client.sessions.update session none })) same
  | openFile session path into =>
    exact opened_twins twins respects thread session into
      (Caller.openFile_carries steady respects (client.sessions.find? session) path threads)
  | closeFile session file => exact useFile_twins twins thread session file _ (Caller.close_carries steady respects)
  | read session file length present =>
    exact useFile_twins twins thread session file _ fun session file =>
      Caller.read_carries steady respects session file length present
  | readAt session file position length present =>
    exact useFile_twins twins thread session file _ fun session file =>
      Caller.readAt_carries steady respects session file position length present
  | seek session file position =>
    exact useFile_twins twins thread session file (fun answer => Answer.ofUnit (answer.map fun _ => ()))
      fun session file => Caller.seek_carries steady respects session file position
  | tell session file => exact useFile_twins twins thread session file _ (Caller.tell_carries steady respects)
  | cancel session file => exact useFile_twins twins thread session file _ (Caller.cancel_carries steady respects)
  | newBuilder into => exact loaded_twins twins thread into (Caller.loading_carries steady _ _ threads)
  | newBuilderFrom directory into =>
    exact loaded_twins twins thread into (directoryBuilder_carries steady client directory threads)
  | changeBuilder builder change =>
    exact changed_twins twins thread builder _
      (Caller.accept_carries steady (changed (client.builders.find? builder) change) threads)
  | lookUpText builder key present => exact (reportFault_twins twins steady thread threads _).pair _
  | lookUpInteger builder key present => exact (reportFault_twins twins steady thread threads _).pair _
  | lookUpDefaultText key present =>
    exact lookedUp_twins twins steady thread (fun builder => lookUpText (some builder) key present)
      Answer.ofText (.text (-1) none)
      (Caller.loading_carries steady client.tree (.ofVariables client.environment) threads)
  | lookUpDefaultInteger key present =>
    exact lookedUp_twins twins steady thread (fun builder => lookUpInteger (some builder) key present)
      Answer.ofInteger (.integer (-1) none)
      (Caller.loading_carries steady client.tree (.ofVariables client.environment) threads)
  | logTo handler => cases other
  | filterLog request => cases other
  | isOpenForRead | freeBuilder | observeSessions | observeFiles | fetchMessage => exact ⟨ambient', alike, rfl⟩

end Client
end DfsClient
