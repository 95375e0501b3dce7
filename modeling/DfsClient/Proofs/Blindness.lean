import DfsClient.Engine.Choice
import DfsClient.Engine.Scripted
import DfsClient.Proofs.Surroundings

/-! What engines make of their surroundings. The engines here act on them by logging, telling and
requesting alone, so that each of them respects whatever outlasts these. In particular none of them
learns anything from what was observed before. -/

namespace DfsClient
open Boundary

variable {related : Ambient → Ambient → Prop}

namespace Memory

variable {World' : Type} (steady : Ambient.Steady related)
include steady

namespace File

theorem copyAt_carries (file : File) (length offset : Nat) :
    Carries related fun scene : Scene World' => file.copyAt length offset scene := by
  intro scene scene' twins
  unfold copyAt
  split
  · exact twins.pair _
  · have told := Scene.tell?_carries steady file.observer ⟨fileEvents.read, file.cluster, some file.path,
      Int64.ofNat (min length (file.length - min offset file.length))⟩ twins
    dsimp only at told ⊢
    refine told.elim fun response after ambient' alike => ?_
    have left : Twins related after (within after ambient') := ⟨ambient', alike, rfl⟩
    cases response with
    | fail status => exact left.pair _
    | proceed => exact (Scene.log_carries steady _ _ _ left).pair _

theorem read_carries (file : File) (length : Nat) :
    Carries related fun scene : Scene World' => file.read length scene := by
  intro scene scene' twins
  have copied := copyAt_carries steady file length file.position twins
  dsimp only [read] at copied ⊢
  refine copied.elim fun result after ambient' alike => ?_
  have left : Twins related after (within after ambient') := ⟨ambient', alike, rfl⟩
  match result with
  | .answered (.ok transfer) => exact (left.pair _).pair _
  | .answered (.error status) => exact (left.pair _).pair _
  | .panicked payload => exact (left.pair _).pair _

theorem readAt_carries (file : File) (length offset : Nat) :
    Carries related fun scene : Scene World' => file.readAt length offset scene := fun _ _ twins =>
  (copyAt_carries steady file length offset twins).beside file

theorem cancel_carries (file : File) :
    Carries related fun scene : Scene World' => file.cancel scene := fun _ _ twins =>
  (Scene.log_carries steady _ _ _ twins).pair _

end File

namespace Session

theorem arrive_carries (session : Session) (place : String) (reached : Option ClusterId) :
    Carries related fun scene : Scene World => session.arrive place reached scene := by
  intro scene scene' twins
  cases reached with
  | none => exact ((Scene.log_carries steady _ _ _ twins).pair _).pair _
  | some id =>
    obtain ⟨ambient', alike, rfl⟩ := twins
    dsimp only [arrive, within]
    split
    · exact ⟨ambient', alike, rfl⟩
    · exact ⟨ambient', alike, rfl⟩

theorem connectTo_carries (session : Session) (host : String) (port : UInt16) :
    Carries related fun scene : Scene World => session.connectTo host port scene := by
  rintro scene - ⟨ambient', alike, rfl⟩
  have logged := Scene.log_carries steady .info .fileSystem
    ("Connecting to " ++ endpoint host port ++ " as '" ++ session.user ++ "'") (.of scene alike)
  have told := Scene.tell?_carries steady session.observer (scene.world.connecting session.engine host port) logged
  dsimp only [within] at told ⊢
  rw [connectTo_eq, connectTo_eq]
  dsimp only
  refine told.elim fun response after after' alike => ?_
  cases response with
  | fail status => exact ⟨after', alike, rfl⟩
  | proceed => exact arrive_carries steady session _ _ ⟨after', alike, rfl⟩

theorem connect_carries (session : Session) (host service : String) :
    Carries related (session.connect host service) := by
  intro scene scene' twins
  unfold connect
  cases port? service with
  | none => exact (twins.pair _).pair _
  | some port => exact connectTo_carries steady session host port twins

theorem connectDefault_carries (session : Session) : Carries related session.connectDefault := by
  intro scene scene' twins
  unfold connectDefault
  cases session.options.defaultFs with
  | none => exact (twins.pair _).pair _
  | some url =>
    dsimp only
    cases url.host? with
    | none => exact (twins.pair _).pair _
    | some host => exact connect_carries steady session host _ twins

theorem openFile_carries (session : Session) (path : String) :
    Carries related fun scene : Scene World => session.openFile path scene := by
  rintro scene - ⟨ambient', alike, rfl⟩
  unfold openFile
  cases session.cluster with
  | none => exact ⟨ambient', alike, rfl⟩
  | some id =>
    have told := Scene.tell?_carries steady session.observer
      ⟨sessionEvents.read, (scene.world.clusters id).name, none, 0⟩ (.of scene alike)
    dsimp only [within] at told ⊢
    refine told.elim fun response after after' alike => ?_
    have left : Twins related after (within after after') := ⟨after', alike, rfl⟩
    cases response with
    | fail status => exact left.pair _
    | proceed =>
      dsimp only
      cases (scene.world.clusters id).files.get? path with
      | none => exact left.pair _
      | some bytes => exact (Scene.log_carries steady _ _ _ left).pair _

omit steady in
theorem release_carries (session : Session) : Carries related session.release := by
  rintro scene - ⟨ambient', alike, rfl⟩
  exact ⟨ambient', alike, rfl⟩

end Session

theorem engine_respects : engine.Respects related where
  newService := by
    rintro scene - ⟨ambient', alike, rfl⟩
    exact ⟨ambient', alike, rfl⟩
  newSession _ _ _ _ _ twins := twins.pair _
  observeSession _ _ _ _ twins := (twins.pair _).pair _
  connect session host service := by
    rw [engine_connect]
    exact Session.connect_carries steady session host service
  connectDefault := Session.connectDefault_carries steady
  openFile session path _ _ twins := (Session.openFile_carries steady session path twins).beside session
  dropSession session _ _ twins := (Session.release_carries session twins).pair _
  abandonSession := Session.release_carries
  observeFile _ _ _ _ twins := (twins.pair _).pair _
  read := File.read_carries steady
  readAt := File.readAt_carries steady
  seek _ _ _ _ twins := (twins.pair _).pair _
  cancel file _ _ twins := (File.cancel_carries steady file twins).pair _
  dropFile _ _ _ twins := twins.pair _
  abandonFile _ _ _ twins := twins

end Memory

namespace Scripted

variable (steady : Ambient.Steady related)
include steady

theorem attempt_carries (request : Request) : Carries related (attempt request) := by
  rintro scene - ⟨ambient', alike, rfl⟩
  have noted := Scene.surround_carries (steady.request request) (.of scene alike)
  exact noted.pair _

theorem run_carries (request : Request) : Carries related (run request) := by
  intro scene scene' twins
  have attempted := attempt_carries steady request twins
  unfold run
  refine attempted.elim fun result after ambient' alike => ?_
  cases result with
  | answered answer => exact ⟨ambient', alike, rfl⟩
  | panicked payload => exact ⟨ambient', alike, rfl⟩

theorem dropService_carries : Carries related dropService :=
  Scene.surround_carries (steady.request .dropService)

theorem newSession_carries (user : String) (options : Options) : Carries related (newSession user options) := by
  intro scene scene' twins
  have attempted := attempt_carries steady (.newSession user options) twins
  unfold newSession
  refine attempted.elim fun result after ambient' alike => ?_
  have left : Twins related after (within after ambient') := ⟨ambient', alike, rfl⟩
  match result with
  | .answered (.ok _) => exact left.pair _
  | .answered (.error _) => exact (dropService_carries steady left).pair _
  | .panicked payload => exact (dropService_carries steady left).pair _

theorem connect_carries (request : Request) (session : Session) : Carries related (connect request session) := by
  intro scene scene' twins
  have attempted := attempt_carries steady request twins
  unfold connect
  refine attempted.elim fun result after ambient' alike => ?_
  have left : Twins related after (within after ambient') := ⟨ambient', alike, rfl⟩
  match result with
  | .answered (.error status) => exact (left.pair _).pair _
  | .panicked payload => exact (left.pair _).pair _
  | .answered (.ok _) =>
    dsimp only [within]
    cases after.world.event with
    | none => exact (left.pair _).pair _
    | some event =>
      have told := Scene.tell?_carries steady session.observer event left
      dsimp only [within] at told ⊢
      refine told.elim fun response last last' alike => ?_
      cases response with
      | fail status => exact ⟨last', alike, rfl⟩
      | proceed => exact ⟨last', alike, rfl⟩

theorem transfer_carries (request : Request) : Carries related (transfer request) := by
  intro scene scene' twins
  have attempted := attempt_carries steady request twins
  unfold transfer
  refine attempted.elim fun result after ambient' alike => ?_
  match result with
  | .answered (.ok _) => exact ⟨ambient', alike, rfl⟩
  | .answered (.error _) => exact ⟨ambient', alike, rfl⟩
  | .panicked payload => exact ⟨ambient', alike, rfl⟩

theorem openFile_carries (session : Session) (path : String) : Carries related (engine.openFile session path) := by
  intro scene scene' twins
  have attempted := attempt_carries steady (.openFile path) twins
  dsimp only [engine]
  refine attempted.elim fun result after ambient' alike => ?_
  match result with
  | .answered (.ok _) => exact ⟨ambient', alike, rfl⟩
  | .answered (.error _) => exact ⟨ambient', alike, rfl⟩
  | .panicked payload => exact ⟨ambient', alike, rfl⟩

theorem engine_respects : engine.Respects related where
  newService := run_carries steady _
  newSession _ := newSession_carries steady
  observeSession session observer _ _ twins :=
    (run_carries steady .observeSession twins).beside { session with observer := some observer }
  connect session _ _ := connect_carries steady _ session
  connectDefault := connect_carries steady _
  openFile := openFile_carries steady
  dropSession _ _ _ twins := (run_carries steady .dropSession twins).onward (dropService_carries steady)
  abandonSession _ := dropService_carries steady
  observeFile file _ _ _ twins := (run_carries steady .observeFile twins).beside file
  read file length _ _ twins := (transfer_carries steady (.read length) twins).beside file
  readAt file length offset _ _ twins := (transfer_carries steady (.readAt length offset) twins).beside file
  seek file target _ _ twins := (attempt_carries steady (.seek target) twins).beside file
  cancel file _ _ twins := (run_carries steady .cancel twins).beside file
  dropFile _ := run_carries steady .dropFile
  abandonFile _ _ _ twins := twins

end Scripted

namespace Engine

section
variable {a b : Engine} {α α' X X' Y : Type}

theorem onFirst_carries {operation : Scene a.World → α × Scene a.World} (carries : Carries related operation) :
    Carries related (onFirst (b := b) operation) := by
  rintro scene - ⟨ambient', alike, rfl⟩
  obtain ⟨after', alike, same⟩ := carries (.of ⟨scene.ambient, scene.world.first⟩ alike)
  refine ⟨after', alike, ?_⟩
  exact congrArg (fun got : α × Scene a.World =>
    (got.1, Scene.mk got.2.ambient { scene.world with first := got.2.world })) same

theorem onSecond_carries {operation : Scene b.World → α × Scene b.World} (carries : Carries related operation) :
    Carries related (onSecond (a := a) operation) := by
  rintro scene - ⟨ambient', alike, rfl⟩
  obtain ⟨after', alike, same⟩ := carries (.of ⟨scene.ambient, scene.world.second⟩ alike)
  refine ⟨after', alike, ?_⟩
  exact congrArg (fun got : α × Scene b.World =>
    (got.1, Scene.mk got.2.ambient { scene.world with second := got.2.world })) same

/-- An outcome whose first two parts are taken together. -/
theorem gathered_carries {World : Type} {operation : Scene World → α × X × Scene World}
    (carries : Carries related operation) :
    Carries related fun scene =>
      let (answer, held, scene) := operation scene
      ((answer, held), scene) := by
  intro scene scene' twins
  obtain ⟨after', alike, same⟩ := carries twins
  exact ⟨after', alike, congrArg (fun got : α × X × Scene World => ((got.1, got.2.1), got.2.2)) same⟩

/-- The parts of an outcome put apart again. -/
theorem spread {World : Type} (view : α → α') (side : X → X') {got got' : (α × X) × Scene World}
    (twins : Twins related got got') :
    Twins related (view got.1.1, side got.1.2, got.2) (view got'.1.1, side got'.1.2, got'.2) := by
  obtain ⟨after', alike, rfl⟩ := twins
  exact ⟨after', alike, rfl⟩

variable (object : X ⊕ Y)

theorem onEither_carries {onX : X → Scene a.World → α × X × Scene a.World}
    {onY : Y → Scene b.World → α × Y × Scene b.World} (first : ∀ x, Carries related (onX x))
    (second : ∀ y, Carries related (onY y)) : Carries related (onEither onX onY object) := by
  intro scene scene' twins
  cases object with
  | inl x => exact spread id Sum.inl (onFirst_carries (gathered_carries (first x)) twins)
  | inr y => exact spread id Sum.inr (onSecond_carries (gathered_carries (second y)) twins)

theorem finish_carries {onX : X → Scene a.World → α × Scene a.World} {onY : Y → Scene b.World → α × Scene b.World}
    (first : ∀ x, Carries related (onX x)) (second : ∀ y, Carries related (onY y)) :
    Carries related (finish onX onY object) := by
  cases object with
  | inl x => exact onFirst_carries (first x)
  | inr y => exact onSecond_carries (second y)

theorem silently_carries {World : Type} {operation : Scene World → Scene World}
    (carries : Carries related operation) : Carries related (silently operation) := fun _ _ twins =>
  (carries twins).pair ()

end

theorem choice_respects {a b : Engine} (first : a.Respects related) (second : b.Respects related) :
    (a.choice b).Respects related where
  newService := by
    rintro scene - ⟨ambient', alike, rfl⟩
    have twins : Twins related scene (within scene ambient') := ⟨ambient', alike, rfl⟩
    dsimp only [choice, within]
    cases scene.world.installed with
    | first => exact (onFirst_carries first.newService twins).map _
    | second => exact (onSecond_carries second.newService twins).map _
  newSession service user options _ _ twins := by
    cases service with
    | inl service => exact (onFirst_carries (first.newSession service user options) twins).map _
    | inr service => exact (onSecond_carries (second.newSession service user options) twins).map _
  observeSession session observer :=
    onEither_carries session (first.observeSession · observer) (second.observeSession · observer)
  connect session host service :=
    onEither_carries session (first.connect · host service) (second.connect · host service)
  connectDefault session := onEither_carries session first.connectDefault second.connectDefault
  openFile session path _ _ twins := by
    cases session with
    | inl session => exact spread _ Sum.inl (onFirst_carries (gathered_carries (first.openFile session path)) twins)
    | inr session => exact spread _ Sum.inr (onSecond_carries (gathered_carries (second.openFile session path)) twins)
  dropSession session := finish_carries session first.dropSession second.dropSession
  abandonSession session _ _ twins :=
    (finish_carries session (fun held => silently_carries (first.abandonSession held))
      (fun held => silently_carries (second.abandonSession held)) twins).split.2
  observeFile file observer :=
    onEither_carries file (first.observeFile · observer) (second.observeFile · observer)
  read file length := onEither_carries file (first.read · length) (second.read · length)
  readAt file length offset :=
    onEither_carries file (first.readAt · length offset) (second.readAt · length offset)
  seek file target := onEither_carries file (first.seek · target) (second.seek · target)
  cancel file := onEither_carries file first.cancel second.cancel
  dropFile file := finish_carries file first.dropFile second.dropFile
  abandonFile file _ _ twins :=
    (finish_carries file (fun held => silently_carries (first.abandonFile held))
      (fun held => silently_carries (second.abandonFile held)) twins).split.2

end Engine

namespace Engine

section
variable {World α X : Type} (request : Request) (good : α → Bool)

theorem noting_carries {operation : Scene World → Reply α × Scene World} (carries : Carries related operation) :
    Carries related (noting request good operation) := by
  rintro scene - ⟨ambient', alike, rfl⟩
  obtain ⟨after', alike, same⟩ := carries (.of scene.plain alike)
  refine ⟨after', alike, ?_⟩
  exact congrArg (fun got : Reply α × Scene World =>
    (got.1, got.2.noted (scene.world.notes ++ [⟨request, got.1.gives good⟩]))) same

theorem notingOn_carries {operation : Scene World → Reply α × X × Scene World} (carries : Carries related operation) :
    Carries related (notingOn request good operation) := by
  rintro scene - ⟨ambient', alike, rfl⟩
  obtain ⟨after', alike, same⟩ := carries (.of scene.plain alike)
  refine ⟨after', alike, ?_⟩
  exact congrArg (fun got : Reply α × X × Scene World =>
    (got.1, got.2.1, got.2.2.noted (scene.world.notes ++ [⟨request, got.1.gives good⟩]))) same

theorem releasing_carries {operation : Scene World → Scene World} (carries : Carries related operation) :
    Carries related (releasing request operation) := by
  rintro scene - ⟨ambient', alike, rfl⟩
  obtain ⟨after', alike, same⟩ := carries (.of scene.plain alike)
  exact ⟨after', alike, congrArg (fun after => after.noted (scene.world.notes ++ [⟨request, true⟩])) same⟩

end

theorem Respects.noted {engine : Engine} (respects : engine.Respects related) : engine.noted.Respects related where
  newService := noting_carries _ _ respects.newService
  newSession service user options := noting_carries _ _ (respects.newSession service user options)
  observeSession session observer := notingOn_carries _ _ (respects.observeSession session observer)
  connect session host service := notingOn_carries _ _ (respects.connect session host service)
  connectDefault session := notingOn_carries _ _ (respects.connectDefault session)
  openFile session path := notingOn_carries _ _ (respects.openFile session path)
  dropSession session := noting_carries _ _ (respects.dropSession session)
  abandonSession session := releasing_carries _ (respects.abandonSession session)
  observeFile file observer := notingOn_carries _ _ (respects.observeFile file observer)
  read file length := notingOn_carries _ _ (respects.read file length)
  readAt file length offset := notingOn_carries _ _ (respects.readAt file length offset)
  seek file target := notingOn_carries _ _ (respects.seek file target)
  cancel file := notingOn_carries _ _ (respects.cancel file)
  dropFile file := noting_carries _ _ (respects.dropFile file)
  abandonFile file := releasing_carries _ (respects.abandonFile file)

end Engine

/-- A diagnostic that is no record. -/
def Observation.isNote : Observation → Bool
  | .traced trace => !trace.isRecord
  | _ => false

namespace Ambient

/-- Surroundings that differ at most in what was observed. -/
def SeenApart (apart : List Observation → List Observation → Prop) (ambient ambient' : Ambient) : Prop :=
  ∃ seen', apart ambient.seen seen' ∧ ambient' = { ambient with seen := seen' }

section
variable {apart : List Observation → List Observation → Prop}
  (grows : ∀ {seen seen'} observation, apart seen seen' → apart (seen ++ [observation]) (seen' ++ [observation]))
include grows

theorem SeenApart.emit {ambient ambient' : Ambient} (alike : SeenApart apart ambient ambient')
    (observation : Observation) : SeenApart apart (ambient.emit observation) (ambient'.emit observation) := by
  obtain ⟨seen', apart, rfl⟩ := alike
  exact ⟨_, grows observation apart, rfl⟩

theorem SeenApart.write {ambient ambient' : Ambient} (alike : SeenApart apart ambient ambient')
    (record : Log.Record) : SeenApart apart (ambient.write record) (ambient'.write record) := by
  obtain ⟨seen', still, rfl⟩ := alike
  obtain ⟨filter, sink, replies, told, seen⟩ := ambient
  cases sink with
  | trace => exact ⟨_, grows _ still, rfl⟩
  | logger label => exact ⟨_, grows _ still, rfl⟩
  | handler receiver =>
    dsimp only [Ambient.write]
    split
    · exact ⟨_, grows _ still, rfl⟩
    · exact ⟨_, grows _ still, rfl⟩
  | discard => exact ⟨_, still, rfl⟩

theorem SeenApart.steady : Steady (SeenApart apart) where
  note note _ _ _ twins := twins_ambient.mpr (emit grows (twins_ambient.mp twins) (.traced note))
  request request _ _ twins := twins_ambient.mpr (emit grows (twins_ambient.mp twins) (.requested request))
  log level component message ambient ambient' twins := by
    have alike := twins_ambient.mp twins
    have written := write grows alike { level, component, message }
    obtain ⟨seen', still, rfl⟩ := alike
    refine twins_ambient.mpr ?_
    unfold Ambient.log
    dsimp only
    split
    · exact written
    · exact ⟨seen', still, rfl⟩
  tell observer event ambient ambient' twins := by
    obtain ⟨seen', still, rfl⟩ := twins_ambient.mp twins
    match observer with
    | none => exact twins.pair _
    | some (.embedded tag response) => exact ⟨_, ⟨_, grows _ still, rfl⟩, rfl⟩
    | some (.handler monitor) => exact ⟨_, ⟨_, grows _ still, rfl⟩, rfl⟩

end

/-- What was observed up to some point differs, and nothing else does since. -/
def Since (past past' : List Observation) : Ambient → Ambient → Prop :=
  SeenApart fun seen seen' => ∃ fresh, seen = past ++ fresh ∧ seen' = past' ++ fresh

theorem Since.steady (past past' : List Observation) : Steady (Since past past') :=
  SeenApart.steady fun observation => by
    rintro ⟨fresh, rfl, rfl⟩
    exact ⟨fresh ++ [observation], List.append_assoc .., List.append_assoc ..⟩

/-- The same was observed but for notes. -/
def Renoted : Ambient → Ambient → Prop :=
  SeenApart fun seen seen' => seen.filter (!·.isNote) = seen'.filter (!·.isNote)

theorem Renoted.steady : Steady Renoted :=
  SeenApart.steady fun observation same => by rw [List.filter_append, List.filter_append, same]

end Ambient

/-- An engine that learns nothing from what was observed before, and only adds to it. -/
def Engine.Blind (engine : Engine) : Prop := ∀ past past', engine.Respects (Ambient.Since past past')

theorem Carries.renoted {σ τ : Type} [Surrounded σ] [Surrounded τ] {operation : σ → τ}
    (carries : ∀ past past', Carries (Ambient.Since past past') operation) : Carries Ambient.Renoted operation := by
  rintro one - ⟨-, ⟨seen', same, rfl⟩, rfl⟩
  have start : Ambient.Since (ambient one).seen seen' (ambient one) { ambient one with seen := seen' } :=
    ⟨seen', ⟨[], (List.append_nil _).symm, (List.append_nil _).symm⟩, rfl⟩
  obtain ⟨-, ⟨-, ⟨fresh, grown, rfl⟩, rfl⟩, ended⟩ := carries _ _ ⟨_, start, rfl⟩
  refine ⟨_, ⟨_, ?_, rfl⟩, ended⟩
  dsimp only
  rw [grown, List.filter_append, List.filter_append, same]

namespace Engine.Blind

theorem renoted {engine : Engine} (blind : engine.Blind) : engine.Respects Ambient.Renoted where
  newService := .renoted fun past past' => (blind past past').newService
  newSession service user options := .renoted fun past past' => (blind past past').newSession service user options
  observeSession session observer := .renoted fun past past' => (blind past past').observeSession session observer
  connect session host service := .renoted fun past past' => (blind past past').connect session host service
  connectDefault session := .renoted fun past past' => (blind past past').connectDefault session
  openFile session path := .renoted fun past past' => (blind past past').openFile session path
  dropSession session := .renoted fun past past' => (blind past past').dropSession session
  abandonSession session := .renoted fun past past' => (blind past past').abandonSession session
  observeFile file observer := .renoted fun past past' => (blind past past').observeFile file observer
  read file length := .renoted fun past past' => (blind past past').read file length
  readAt file length offset := .renoted fun past past' => (blind past past').readAt file length offset
  seek file target := .renoted fun past past' => (blind past past').seek file target
  cancel file := .renoted fun past past' => (blind past past').cancel file
  dropFile file := .renoted fun past past' => (blind past past').dropFile file
  abandonFile file := .renoted fun past past' => (blind past past').abandonFile file

theorem noted {engine : Engine} (blind : engine.Blind) : engine.noted.Blind := fun past past' =>
  (blind past past').noted

theorem memory : Memory.engine.Blind := fun past past' => Memory.engine_respects (Ambient.Since.steady past past')

theorem scripted : Scripted.engine.Blind := fun past past' => Scripted.engine_respects (Ambient.Since.steady past past')

theorem choice {a b : Engine} (first : a.Blind) (second : b.Blind) : (a.choice b).Blind := fun past past' =>
  choice_respects (first past past') (second past past')

end Engine.Blind
end DfsClient
