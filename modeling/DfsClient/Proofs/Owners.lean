import DfsClient.Proofs.FaultInjection
import DfsClient.Proofs.Lockstep

/-! Two clients that look the same to one thread: it finds the same in its own slots and under the
names that it uses, and the engine serves both alike. Its calls keep them so, as long as its
observers reply the same. -/

namespace DfsClient
open Boundary

/-- What a call finds or leaves something under. -/
inductive Resource where
  | builder (name : String)
  | session (name : String)
  | file (name : String)
deriving DecidableEq, Repr

/-- What a call uses or fills. -/
def Call.uses : Call → List Resource
  | .connect _ _ _ into => into.toList.map .session
  | .connectBuilder builder into => builder.toList.map .builder ++ into.toList.map .session
  | .disconnect session => session.toList.map .session
  | .openFile session _ into => session.toList.map .session ++ into.toList.map .file
  | .isOpenForRead file => file.toList.map .file
  | .closeFile session file | .read session file _ _ | .readAt session file _ _ _ | .seek session file _
  | .tell session file | .cancel session file => session.toList.map .session ++ file.toList.map .file
  | .newBuilder into | .newBuilderFrom _ into => into.toList.map .builder
  | .freeBuilder builder | .changeBuilder builder _ | .lookUpText builder _ _ | .lookUpInteger builder _ _ =>
    builder.toList.map .builder
  | _ => []

namespace Client
open Memory

structure Alike (thread : Nat) (own : Resource → Prop) (one other : Client engine) : Prop where
  slots : one.threads thread = other.threads thread
  world : World.Like one.scene.world other.scene.world
  tree : one.tree = other.tree
  environment : one.environment = other.environment
  builders : ∀ name, own (.builder name) → one.builders.get? name = other.builders.get? name
  sessions : ∀ name, own (.session name) → one.sessions.get? name = other.sessions.get? name
  files : ∀ name, own (.file name) → one.files.get? name = other.files.get? name

variable {thread : Nat} {own : Resource → Prop} {one other third : Client engine}

namespace Alike

theorem refl (client : Client engine) : client.Alike thread own client :=
  ⟨rfl, .refl _, rfl, rfl, fun _ _ => rfl, fun _ _ => rfl, fun _ _ => rfl⟩

theorem trans (first : one.Alike thread own other) (second : other.Alike thread own third) :
    one.Alike thread own third where
  slots := first.slots.trans second.slots
  world := first.world.trans second.world
  tree := first.tree.trans second.tree
  environment := first.environment.trans second.environment
  builders name owned := (first.builders name owned).trans (second.builders name owned)
  sessions name owned := (first.sessions name owned).trans (second.sessions name owned)
  files name owned := (first.files name owned).trans (second.files name owned)

theorem caller (alike : one.Alike thread own other) : Caller.Alike (one.caller thread) (other.caller thread) :=
  ⟨alike.slots, alike.world⟩

section
variable (alike : one.Alike thread own other)
include alike

theorem find_builder {handle : Handle} (owns : ∀ resource ∈ handle.toList.map .builder, own resource) :
    one.builders.find? handle = other.builders.find? handle := by
  apply Table.find?_congr
  rintro name rfl
  exact alike.builders name (owns _ List.mem_cons_self)

theorem find_session {handle : Handle} (owns : ∀ resource ∈ handle.toList.map .session, own resource) :
    one.sessions.find? handle = other.sessions.find? handle := by
  apply Table.find?_congr
  rintro name rfl
  exact alike.sessions name (owns _ List.mem_cons_self)

theorem find_file {handle : Handle} (owns : ∀ resource ∈ handle.toList.map .file, own resource) :
    one.files.find? handle = other.files.find? handle := by
  apply Table.find?_congr
  rintro name rfl
  exact alike.files name (owns _ List.mem_cons_self)

theorem resume {caller caller' : Caller engine.World} (same : caller.Alike caller') :
    (one.resume thread caller).Alike thread own (other.resume thread caller') := by
  refine { alike with slots := ?_, world := same.world }
  have mine := congrArg Caller.slots (one.caller_resume_same thread caller)
  have theirs := congrArg Caller.slots (other.caller_resume_same thread caller')
  exact mine.trans (same.slots.trans theirs.symm)

theorem keepBuilder (handle : Handle) {builder builder' : Option Builder} (same : builder = builder') :
    (one.keepBuilder handle builder).Alike thread own (other.keepBuilder handle builder') := by
  subst same
  exact { alike with builders := fun name owned => Table.get?_update_congr handle builder (alike.builders name owned) }

theorem keepSession (handle : Handle) {session session' : Option engine.Session} (same : session = session') :
    Client.Alike thread own { one with sessions := one.sessions.update handle session }
      { other with sessions := other.sessions.update handle session' } := by
  subst same
  exact { alike with sessions := fun name owned => Table.get?_update_congr handle session (alike.sessions name owned) }

theorem keepFile (handle : Handle) {file file' : Option engine.File} (same : file = file') :
    Client.Alike thread own { one with files := one.files.update handle file }
      { other with files := other.files.update handle file' } := by
  subst same
  exact { alike with files := fun name owned => Table.get?_update_congr handle file (alike.files name owned) }

end
end Alike

theorem worldWithout_like (world : World) (surplus : Option Session) :
    (Holdings.worldWithout world surplus).Like world := by
  cases surplus with
  | none => exact .refl world
  | some session => exact .setServices world session.engine _

theorem world_replaceSession (client : Client engine) (into : Handle) (got : Option engine.Session) :
    World.Like (client.replaceSession into got).scene.world client.scene.world := by
  change (client.replaceSession into got).holdings.world.Like client.holdings.world
  rw [holdings_replaceSession]
  exact worldWithout_like client.holdings.world _

theorem world_replaceFile (client : Client engine) (into : Handle) (got : Option engine.File) :
    (client.replaceFile into got).scene.world = client.scene.world :=
  congrArg Holdings.world (client.holdings_replaceFile into got)

theorem Alike.replaceSession (alike : one.Alike thread own other) (into : Handle)
    {got got' : Option engine.Session} (same : got = got') :
    (one.replaceSession into got).Alike thread own (other.replaceSession into got') := by
  have kept := alike.keepSession into same
  refine { kept with world := ?_ }
  exact ((one.world_replaceSession into got).trans alike.world).trans (other.world_replaceSession into got').symm

theorem Alike.replaceFile (alike : one.Alike thread own other) (into : Handle)
    {got got' : Option engine.File} (same : got = got') :
    (one.replaceFile into got).Alike thread own (other.replaceFile into got') := by
  have kept := alike.keepFile into same
  refine { kept with world := ?_ }
  rw [world_replaceFile, world_replaceFile]
  exact alike.world

/-- Two results of a call: the same answer, and clients that look the same to the thread. -/
structure Answered (thread : Nat) (own : Resource → Prop) (got got' : Answer × Client engine) : Prop where
  answer : got.1 = got'.1
  client : got.2.Alike thread own got'.2

/-- A call goes in lockstep in two clients, and its audience is told what is due for it. -/
def CallsAlike [Formats] (thread : Nat) (own : Resource → Prop) (one other : Client engine) (call : Call) : Prop :=
  Lockstep (one.audience thread call) (one.due? call) one.scene.ambient other.scene.ambient
    (fun got => got.2.scene.ambient) (Answered thread own) (one.call thread call) (other.call thread call)

section
variable (alike : one.Alike thread own other)
include alike

theorem connected_answered (into : Handle) {got got' : Option engine.Session × Caller engine.World}
    (concluded : Caller.Concluded got got') :
    Answered thread own (one.connected thread into got) (other.connected thread into got') :=
  ⟨congrArg Answer.ofHandle concluded.answer,
    (alike.resume concluded.caller).replaceSession into concluded.answer⟩

theorem connected_lockstep (into : Handle) {observer : Option Observer} {event : Option Event}
    {got got' : Option engine.Session × Caller engine.World}
    (steps : Lockstep observer event one.scene.ambient other.scene.ambient (fun got => got.2.scene.ambient)
      Caller.Concluded got got') :
    Lockstep observer event one.scene.ambient other.scene.ambient (fun got => got.2.scene.ambient)
      (Answered thread own) (one.connected thread into got) (other.connected thread into got') := by
  have left (client : Client engine) (got : Option engine.Session × Caller engine.World) :
      got.2.scene.ambient.Hears observer [] (client.connected thread into got).2.scene.ambient := by
    unfold connected
    rw [ambient_replaceSession]
    exact .refl _ _
  apply steps.lift
  · exact left one got
  · exact left other got'
  · exact connected_answered alike into

theorem opened_answered (session into : Handle)
    {got got' : Option engine.File × Option engine.Session × Caller engine.World}
    (ended : Caller.Ended got got') :
    Answered thread own (one.opened thread session into got) (other.opened thread session into got') :=
  ⟨congrArg Answer.ofHandle ended.answer,
    ((alike.resume ended.caller).keepSession session ended.held).replaceFile into ended.answer⟩

theorem openFile_callsAlike [Formats] (sound : one.holdings.Sound) (session : Handle) (path : Given) (into : Handle)
    (owns : ∀ resource ∈ (Call.openFile session path into).uses, own resource) :
    CallsAlike thread own one other (.openFile session path into) := by
  have same := alike.find_session fun resource member => owns resource (List.mem_append_left _ member)
  have steps := Caller.openFile_lockstep alike.caller
    (sound.session_crossing session) path
  have left (client : Client engine)
      (got : Option engine.File × Option engine.Session × Caller engine.World) (observer : Option Observer) :
      got.2.2.scene.ambient.Hears observer [] (client.opened thread session into got).2.scene.ambient := by
    unfold opened
    rw [ambient_replaceFile]
    exact .refl _ _
  have theirs : other.call thread (.openFile session path into) =
      other.opened thread session into ((other.caller thread).openFile (one.sessions.find? session) path) := by
    rw [same]
    rfl
  unfold CallsAlike
  rw [theirs]
  apply steps.lift
  · exact left one _ _
  · exact left other _ _
  · exact opened_answered alike session into

theorem used_answered {α : Type} (present : Option α → Answer) (file : Handle)
    {got got' : Option α × Option engine.File × Caller engine.World} (ended : Caller.Ended got got') :
    Answered thread own (present (one.used thread file got).1, (one.used thread file got).2)
      (present (other.used thread file got').1, (other.used thread file got').2) :=
  ⟨congrArg present ended.answer, (alike.resume ended.caller).keepFile file ended.held⟩

section
variable [Formats]

/-- A call that works on a file or ends it. -/
theorem used_callsAlike {α : Type} {call : Call} {session file : Handle}
    (owns : ∀ resource ∈ session.toList.map .session ++ file.toList.map .file, own resource)
    (present : Option α → Answer)
    (operation : Caller engine.World → Option engine.Session → Option engine.File →
      Option α × Option engine.File × Caller engine.World)
    (steps : Lockstep (one.audience thread call) (one.due? call) one.scene.ambient other.scene.ambient
      (fun got => got.2.2.scene.ambient) Caller.Ended
      (operation (one.caller thread) (one.sessions.find? session) (one.files.find? file))
      (operation (other.caller thread) (one.sessions.find? session) (one.files.find? file)))
    (called : ∀ client : Client engine, client.call thread call =
      let (answer, after) := client.useFile thread session file operation
      (present answer, after)) :
    CallsAlike thread own one other call := by
  have sessions := alike.find_session fun resource member => owns resource (List.mem_append_left _ member)
  have files := alike.find_file fun resource member => owns resource (List.mem_append_right _ member)
  let shape (client : Client engine) (got : Option α × Option engine.File × Caller engine.World) :
      Answer × Client engine := (present (client.used thread file got).1, (client.used thread file got).2)
  have mine : one.call thread call = shape one
      (operation (one.caller thread) (one.sessions.find? session) (one.files.find? file)) := called one
  have theirs : other.call thread call = shape other
      (operation (other.caller thread) (one.sessions.find? session) (one.files.find? file)) := by
    rw [called, sessions, files]
    rfl
  unfold CallsAlike
  rw [mine, theirs]
  apply steps.lift
  · exact .refl _ _
  · exact .refl _ _
  · exact used_answered alike present file

theorem useFile_callsAlike {α β : Type} (sound : one.holdings.Sound) {call : Call} {session file : Handle}
    (owns : ∀ resource ∈ session.toList.map .session ++ file.toList.map .file, own resource)
    (arguments : Except Fault β)
    (operation : engine.File → β → Scene engine.World → Result α × engine.File × Scene engine.World)
    (due : engine.File → β → Option Event)
    (steps : ∀ held argument (scene scene' : Scene engine.World), World.Like scene.world scene'.world →
      Crossing (File.observer held) → Lockstep (File.observer held) (due held argument) scene.ambient
        scene'.ambient (fun got => got.2.2.ambient) Memory.Ended (operation held argument scene)
        (operation held argument scene'))
    (present : Option α → Answer)
    (audience : one.audience thread call = (one.files.find? file).bind File.observer)
    (expects : one.due? call =
      Caller.dueUse? (one.sessions.find? session) (one.files.find? file) arguments.toOption due)
    (called : ∀ client : Client engine, client.call thread call =
      let (answer, after) := client.useFile thread session file
        fun caller session file => caller.useFile session file arguments operation
      (present answer, after)) :
    CallsAlike thread own one other call := by
  have uses := Caller.useFile_lockstep alike.caller (one.sessions.find? session) (sound.file_crossing file)
    arguments steps
  refine used_callsAlike alike owns present
    (fun caller session file => caller.useFile session file arguments operation) ?_ called
  rw [audience, expects]
  exact uses

theorem disconnect_callsAlike (session : Handle)
    (owns : ∀ resource ∈ (Call.disconnect session).uses, own resource) :
    CallsAlike thread own one other (.disconnect session) := by
  have same := alike.find_session owns
  have steps := Caller.disconnect_lockstep alike.caller (one.audience thread (.disconnect session))
    (one.sessions.find? session)
  let shape (client : Client engine) (got : Option Unit × Caller engine.World) : Answer × Client engine :=
    (.ofUnit got.1, { client.resume thread got.2 with sessions := client.sessions.update session none })
  have theirs : other.call thread (.disconnect session) =
      shape other ((other.caller thread).disconnect (one.sessions.find? session)) := by
    rw [same]
    rfl
  unfold CallsAlike
  rw [theirs]
  apply steps.lift
  · exact .refl _ _
  · exact .refl _ _
  · intro concluded
    exact ⟨congrArg Answer.ofUnit concluded.answer, (alike.resume concluded.caller).keepSession session rfl⟩

end

/-- A thread that got a builder, or none, keeps it under a handle. -/
theorem keepBuilder_lockstep (observer : Option Observer) (into : Handle)
    {got got' : Option Builder × Caller engine.World}
    (silence : one.scene.ambient.Hears observer [] got.2.scene.ambient)
    (silence' : other.scene.ambient.Hears observer [] got'.2.scene.ambient)
    (concluded : Caller.Concluded got got') :
    Lockstep observer none one.scene.ambient other.scene.ambient (fun got => got.2.scene.ambient)
      (Answered thread own) (.handle got.1.isSome, (one.resume thread got.2).keepBuilder into got.1)
      (.handle got'.1.isSome, (other.resume thread got'.2).keepBuilder into got'.1) :=
  .silent silence silence'
    ⟨congrArg Answer.ofHandle concluded.answer,
      (alike.resume concluded.caller).keepBuilder into concluded.answer⟩

theorem directoryBuilder_concluded [Formats] (directory : Given) :
    Caller.Concluded (one.directoryBuilder (one.caller thread) directory)
      (other.directoryBuilder (other.caller thread) directory) := by
  cases given : requiredText "configDirectory" directory with
  | error fault =>
    unfold directoryBuilder
    rw [given]
    exact ⟨rfl, Caller.record_alike alike.caller (.refused fault)⟩
  | ok text =>
    rw [directoryBuilder_ok one _ given, directoryBuilder_ok other _ given, alike.tree]
    exact Caller.loading_concluded alike.caller _ _

theorem reportFault_lockstep {α : Type} (observer : Option Observer) (answer : Answer) (result : Except Fault α) :
    Lockstep observer none one.scene.ambient other.scene.ambient (fun got => got.2.scene.ambient)
      (Answered thread own) (answer, one.reportFault thread (one.caller thread) result)
      (answer, other.reportFault thread (other.caller thread) result) :=
  .silent (Caller.tells_accept observer (one.caller thread) result).toHears
    (Caller.tells_accept observer (other.caller thread) result).toHears
    ⟨rfl, alike.resume (Caller.accept_concluded alike.caller result).caller⟩

variable [Formats]

theorem changeBuilder_callsAlike (builder : Handle) (change : Change)
    (owns : ∀ resource ∈ (Call.changeBuilder builder change).uses, own resource) :
    CallsAlike thread own one other (.changeBuilder builder change) := by
  have same := alike.find_builder owns
  change Lockstep _ none _ _ _ _ (one.changeBuilder thread builder change)
    (other.changeBuilder thread builder change)
  unfold changeBuilder
  dsimp only
  rw [same]
  cases changed (other.builders.find? builder) change with
  | ok kept => exact .silent (.refl _ _) (.refl _ _) ⟨rfl, (alike.resume alike.caller).keepBuilder builder rfl⟩
  | error fault => exact reportFault_lockstep (α := Builder) alike _ _ (.error fault)

/-- Lookups in a builder that is given. -/
theorem lookUp_callsAlike {α : Type} {call : Call} {builder : Handle}
    (owns : ∀ resource ∈ builder.toList.map .builder, own resource) (look : Option Builder → Except Fault α)
    (present : Except Fault α → Answer) (undue : one.due? call = none)
    (called : ∀ client : Client engine, client.call thread call =
      (present (look (client.builders.find? builder)),
        client.reportFault thread (client.caller thread) (look (client.builders.find? builder)))) :
    CallsAlike thread own one other call := by
  unfold CallsAlike
  rw [undue, called, called, ← alike.find_builder owns]
  exact reportFault_lockstep alike _ _ _

/-- Lookups in a default builder, which may be missing. -/
theorem default_callsAlike {α : Type} {call : Call} (look : Builder → Except Fault α)
    (present : Except Fault α → Answer) (absent : Answer) (undue : one.due? call = none)
    (missing : ∀ (client : Client engine) caller, client.defaultBuilder (client.caller thread) = (none, caller) →
      client.call thread call = (absent, client.resume thread caller))
    (loaded : ∀ (client : Client engine) builder caller,
      client.defaultBuilder (client.caller thread) = (some builder, caller) →
        client.call thread call = (present (look builder), client.reportFault thread caller (look builder))) :
    CallsAlike thread own one other call := by
  let path := Config.SearchPath.ofVariables one.environment
  have loads : Caller.Concluded (one.defaultBuilder (one.caller thread))
      (other.defaultBuilder (other.caller thread)) := by
    rw [defaultBuilder_eq, defaultBuilder_eq, ← alike.tree, ← alike.environment]
    exact Caller.loading_concluded alike.caller one.tree path
  have silence (client : Client engine) := Caller.tells_loading (one.audience thread call)
    (client.caller thread) client.tree (.ofVariables client.environment)
  have mine := silence one
  have theirs := silence other
  rw [← defaultBuilder_eq] at mine theirs
  unfold CallsAlike
  rw [undue]
  generalize got : one.defaultBuilder (one.caller thread) = result at loads mine
  generalize got' : other.defaultBuilder (other.caller thread) = result' at loads theirs
  obtain ⟨builder, caller⟩ := result
  obtain ⟨builder', caller'⟩ := result'
  obtain ⟨rfl, same⟩ := loads
  cases builder with
  | none =>
    rw [missing one caller got, missing other caller' got']
    exact .silent mine.toHears theirs.toHears ⟨rfl, alike.resume same⟩
  | some builder =>
    rw [loaded one builder caller got, loaded other builder caller' got']
    have accepted := Caller.accept_concluded same (look builder)
    refine .silent (mine.trans (Caller.tells_accept _ caller (look builder))).toHears
      (theirs.trans (Caller.tells_accept _ caller' (look builder))).toHears ⟨rfl, ?_⟩
    exact alike.resume accepted.caller

end

/-- Calls that act on the slots of their thread or on the log alone. -/
theorem settled_callsAlike [Formats] {call : Call} (undue : one.due? call = none) {answer : Answer}
    {after after' : Client engine} (mine : one.call thread call = (answer, after))
    (theirs : other.call thread call = (answer, after')) (same : after.Alike thread own after')
    (silence : one.scene.ambient.Hears (one.audience thread call) [] after.scene.ambient)
    (silence' : other.scene.ambient.Hears (one.audience thread call) [] after'.scene.ambient) :
    CallsAlike thread own one other call := by
  unfold CallsAlike
  rw [undue, mine, theirs]
  exact .silent silence silence' ⟨rfl, same⟩

theorem request_code (filter filter' : Log.Filter) (request : Log.Filter.Request) :
    (filter.request request).1 = (filter'.request request).1 := by
  cases request with
  | level n =>
    unfold Log.Filter.request
    dsimp only
    cases Log.Level.ofCode? n <;> rfl
  | enable n | disable n =>
    unfold Log.Filter.request
    dsimp only
    cases Log.Component.ofCode? n <;> rfl

/-- A call of a thread goes in lockstep in two clients that look the same to it, if it uses nothing
but what is the thread's own. -/
theorem call_lockstep [Formats] (alike : one.Alike thread own other) (sound : one.holdings.Sound) (call : Call)
    (owns : ∀ resource ∈ call.uses, own resource) : CallsAlike thread own one other call := by
  have waiting : Crossing (one.caller thread).slots.sessionObserver := sound.sessionObserver thread
  cases call with
  | connect host port user into =>
    exact connected_lockstep alike into (Caller.connectDirect_lockstep alike.caller waiting host port user)
  | connectBuilder builder into =>
    have same := alike.find_builder fun resource member => owns resource (List.mem_append_left _ member)
    have theirs : other.call thread (.connectBuilder builder into) =
        other.connected thread into ((other.caller thread).connectBuilder (one.builders.find? builder)) := by
      rw [same]
      rfl
    unfold CallsAlike
    rw [theirs]
    exact connected_lockstep alike into
      (Caller.connectBuilder_lockstep alike.caller waiting (one.builders.find? builder))
  | disconnect session => exact disconnect_callsAlike alike session owns
  | openFile session path into => exact openFile_callsAlike alike sound session path into owns
  | isOpenForRead file =>
    have same := alike.find_file owns
    refine settled_callsAlike rfl rfl ?_ alike (.refl _ _) (.refl _ _)
    exact congrArg (fun held : Option engine.File => (Answer.code (if held.isSome then 1 else 0), other)) same.symm
  | closeFile session file =>
    exact used_callsAlike alike owns .ofUnit Caller.close
      (Caller.close_lockstep alike.caller _ _ _) fun _ => rfl
  | read session file length present =>
    exact useFile_callsAlike alike sound owns (room length present) engine.read _
      (fun held count scene scene' like crossing => File.read_lockstep like crossing count) .ofTransfer rfl
      (by rw [toOption_room]; rfl) fun _ => rfl
  | readAt session file position length present =>
    exact useFile_callsAlike alike sound owns (roomAt position length present) Caller.readingAt _
      (fun held place scene scene' like crossing => File.readAt_lockstep like crossing place.2 place.1)
      .ofTransfer rfl (by rw [toOption_roomAt]; rfl) fun _ => rfl
  | seek session file position =>
    exact useFile_callsAlike alike sound owns (offset "desiredPos" position)
      (fun file start => engine.seek file (.start start)) (fun _ _ => none)
      (fun held start scene scene' like _ => File.seek_lockstep like held (.start start))
      (fun answer => .ofUnit (answer.map fun _ => ())) rfl (Caller.dueUse?_none ..).symm fun _ => rfl
  | tell session file =>
    exact useFile_callsAlike alike sound owns (.ok ()) (fun file () => engine.seek file (.current 0))
      (fun _ _ => none) (fun held _ scene scene' like _ => File.seek_lockstep like held (.current 0))
      .ofPosition rfl (Caller.dueUse?_none ..).symm fun _ => rfl
  | cancel session file =>
    exact useFile_callsAlike alike sound owns (.ok ()) Caller.canceling (fun _ _ => none)
      (fun held _ scene scene' like _ => File.cancel_lockstep like held)
      .ofUnit rfl (Caller.dueUse?_none ..).symm fun _ => rfl
  | newBuilder into =>
    have loads : Caller.Concluded (one.defaultBuilder (one.caller thread))
        (other.defaultBuilder (other.caller thread)) := by
      rw [defaultBuilder_eq, defaultBuilder_eq, ← alike.tree, ← alike.environment]
      exact Caller.loading_concluded alike.caller one.tree _
    exact keepBuilder_lockstep alike _ into (Caller.tells_loading _ (one.caller thread) one.tree _).toHears
      (Caller.tells_loading _ (other.caller thread) other.tree _).toHears loads
  | newBuilderFrom directory into =>
    exact keepBuilder_lockstep alike _ into (one.directoryBuilder_unobserved thread _ directory).1.toHears
      (other.directoryBuilder_unobserved thread _ directory).1.toHears (directoryBuilder_concluded alike directory)
  | freeBuilder builder =>
    exact settled_callsAlike rfl rfl rfl (alike.keepBuilder builder rfl) (.refl _ _) (.refl _ _)
  | changeBuilder builder change => exact changeBuilder_callsAlike alike builder change owns
  | lookUpText builder key present =>
    exact lookUp_callsAlike alike owns (lookUpText · key present) .ofText rfl fun _ => rfl
  | lookUpInteger builder key present =>
    exact lookUp_callsAlike alike owns (lookUpInteger · key present) .ofInteger rfl fun _ => rfl
  | lookUpDefaultText key present =>
    refine default_callsAlike alike (fun builder => lookUpText (some builder) key present) .ofText
      (.text (-1) none) rfl (fun client caller lost => ?_) (fun client builder caller loaded => ?_)
    · simp only [Client.call, lost]
    · simp only [Client.call, loaded]
  | lookUpDefaultInteger key present =>
    refine default_callsAlike alike (fun builder => lookUpInteger (some builder) key present) .ofInteger
      (.integer (-1) none) rfl (fun client caller lost => ?_) (fun client builder caller loaded => ?_)
    · simp only [Client.call, lost]
    · simp only [Client.call, loaded]
  | observeSessions monitor =>
    have attached : Caller.Alike
        { one.caller thread with slots := { one.threads thread with sessionObserver := monitor.map .handler } }
        { other.caller thread with slots := { other.threads thread with sessionObserver := monitor.map .handler } } :=
      ⟨congrArg (fun slots : Slots => { slots with sessionObserver := monitor.map .handler }) alike.slots, alike.world⟩
    exact settled_callsAlike rfl rfl rfl (alike.resume attached) (.refl _ _) (.refl _ _)
  | observeFiles monitor =>
    have attached : Caller.Alike
        { one.caller thread with slots := { one.threads thread with fileObserver := monitor.map .handler } }
        { other.caller thread with slots := { other.threads thread with fileObserver := monitor.map .handler } } :=
      ⟨congrArg (fun slots : Slots => { slots with fileObserver := monitor.map .handler }) alike.slots, alike.world⟩
    exact settled_callsAlike rfl rfl rfl (alike.resume attached) (.refl _ _) (.refl _ _)
  | logTo handler =>
    exact settled_callsAlike rfl rfl rfl { alike with } ⟨rfl, rfl, (List.append_nil _).symm, List.forall_mem_nil _⟩
      ⟨rfl, rfl, (List.append_nil _).symm, List.forall_mem_nil _⟩
  | filterLog request =>
    have code := request_code other.scene.ambient.filter one.scene.ambient.filter request
    have theirs : other.call thread (.filterLog request) =
        (.code (one.scene.ambient.filter.request request).1, (other.call thread (.filterLog request)).2) :=
      congrArg (fun code => (Answer.code code, _)) code
    exact settled_callsAlike rfl rfl theirs { alike with } ⟨rfl, rfl, (List.append_nil _).symm, List.forall_mem_nil _⟩
      ⟨rfl, rfl, (List.append_nil _).symm, List.forall_mem_nil _⟩
  | fetchMessage length present buffer =>
    have same := alike.slots
    refine settled_callsAlike rfl rfl ?_ alike (.refl _ _) (.refl _ _)
    exact congrArg (fun slots : Slots =>
      (Answer.buffer (fetchMessage (Text.encode slots.message) length present buffer), other)) same.symm

/-- What handlers were told in between. -/
def toldSince (before after : Client engine) : List Notice :=
  after.scene.ambient.notices.drop before.scene.ambient.notices.length

theorem toldSince_eq {observer : Option Observer} {fresh : List Notice} {before after : Client engine}
    (hears : before.scene.ambient.Hears observer fresh after.scene.ambient) : before.toldSince after = fresh := by
  unfold toldSince
  rw [hears.notices, List.drop_left]

/-- A call is told of what is due for it, and of nothing else. -/
theorem call_tells_due [Formats] (client : Client engine) (sound : client.holdings.Sound) (thread : Nat) (call : Call) :
    client.scene.ambient.Hears (client.audience thread call)
      (noticesOf (client.audience thread call) (client.due? call)) (client.call thread call).2.scene.ambient :=
  have itself : client.Alike thread (fun _ => True) client := .refl client
  (call_lockstep itself sound call fun _ _ => trivial).hears

end Client
end DfsClient
