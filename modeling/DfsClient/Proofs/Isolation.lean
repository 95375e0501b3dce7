import DfsClient.Formats.Standard
import DfsClient.Proofs.Clusters
import DfsClient.Proofs.Lifetimes
import DfsClient.Proofs.Serving

/-! Open files are isolated snapshots. What the uses of a file show is a function of its content at
the open, of the uses, and of the failures that handlers ask for; all else that happens between
the uses makes no difference. In the same way a session stays with the cluster that it got. -/

namespace DfsClient
open Boundary Memory

namespace Proofs

/-- What a use shows of itself: an error counts only if the number says that the use failed. -/
structure Showing where
  number : Int
  error? : Option LastError
  buffer : List UInt8

def Sight.shown (sight : Sight) : Showing :=
  ⟨sight.number, if sight.number = -1 then some sight.error else none, sight.buffer⟩

theorem Cursor.number_apply {cursor : Cursor} {reply : Nat → Response} {operation : Operation}
    {effect : Effect} (done : cursor.apply reply operation = .ok effect) : 0 ≤ effect.number := by
  cases operation with
  | cancel =>
    cases done
    exact Int.le_refl 0
  | tell =>
    simp only [apply] at done
    split at done
    · cases done
    · cases done
      exact Int.natCast_nonneg _
  | seek target =>
    simp only [apply] at done
    split at done
    · cases done
    · split at done
      · cases done
        exact Int.le_refl 0
      · cases done
  | readAt start count | read count =>
    simp only [apply, deliver] at done
    split at done
    · cases done
    · split at done
      · cases done
        exact Int.natCast_nonneg _
      · cases done

/-- Unless its observer makes it fail, an operation fails with an error to report. -/
theorem Cursor.apply_clean {cursor : Cursor} {operation : Operation} {status : Status}
    (failed : cursor.apply (fun _ => .proceed) operation = .error status) : status.isOk = false := by
  cases operation with
  | cancel => cases failed
  | tell =>
    simp only [apply] at failed
    split at failed
    · cases failed
      rfl
    · cases failed
  | seek target =>
    simp only [apply] at failed
    split at failed
    · cases failed
      rfl
    · split at failed
      · cases failed
      · cases failed
        rfl
  | readAt start count | read count =>
    simp only [apply, deliver] at failed
    split at failed
    · cases failed
      rfl
    · cases failed

namespace Desk

/-- A use as it goes when a handler refuses it, or when none does. -/
def meet (refused : Bool) (desk : Desk) (thread : Nat) (use : FileUse) : Sight × Desk :=
  if refused then desk.fail thread use (.failed simulated)
  else desk.use (fun _ _ => .proceed) thread use

theorem shown_fail (desk : Desk) (thread : Nat) (use : FileUse) {failure : Failure} {error : LastError}
    (leaves : failure.error? = some error) :
    (desk.fail thread use failure).1.shown = ⟨-1, some error, use.buffer⟩ := by
  unfold fail
  rw [leaves]
  rfl

/-- What a use shows, and where it leaves the cursor, depends on the cursor alone. -/
theorem meet_congr {one other : Desk} (same : one.cursor = other.cursor) (refused : Bool)
    (thread thread' : Nat) (use : FileUse) :
    (one.meet refused thread use).1.shown = (other.meet refused thread' use).1.shown ∧
      (one.meet refused thread use).2.cursor = (other.meet refused thread' use).2.cursor := by
  cases refused with
  | true => exact ⟨rfl, same⟩
  | false =>
    simp only [meet, Bool.false_eq_true, ↓reduceIte, Desk.use]
    cases use.operation with
    | error fault => exact ⟨rfl, same⟩
    | ok operation =>
      dsimp only
      rw [same]
      cases outcome : other.cursor.apply (fun _ => .proceed) operation with
      | error status =>
        have leaves := Failure.error?_failed (Cursor.apply_clean outcome)
        exact ⟨(shown_fail _ thread use leaves).trans (shown_fail _ thread' use leaves).symm, rfl⟩
      | ok effect =>
        have apart : effect.number ≠ -1 := by
          have := Cursor.number_apply outcome
          omega
        dsimp only
        unfold Sight.shown
        rw [if_neg apart, if_neg apart]
        exact ⟨rfl, rfl⟩

end Desk

/-- A use of a file in a run: whether a handler refused it, and what it showed. -/
structure Meeting where
  refused : Bool
  shown : Showing

def Cursor.meet (cursor : Cursor) (refused : Bool) (use : FileUse) : Showing × Cursor :=
  let (sight, desk) := Desk.meet refused { cursor, errors := fun _ => (0, "") } 0 use
  (sight.shown, desk.cursor)

/-- Uses that go as a cursor says, by which of them are refused. -/
inductive Cursor.Meets : Cursor → List FileUse → List Meeting → Prop
  | nil {cursor : Cursor} : Meets cursor [] []
  | cons {cursor : Cursor} {use : FileUse} {refused : Bool} {uses : List FileUse} {later : List Meeting}
      (rest : Meets (cursor.meet refused use).2 uses later) :
      Meets cursor (use :: uses) (⟨refused, (cursor.meet refused use).1⟩ :: later)

/-- Handlers reply alike in two runs: where all went alike so far, they refuse the next use in both
or in neither. -/
def Alike (one other : List Meeting) : Prop :=
  ∀ n, one.take n = other.take n → (one.map Meeting.refused)[n]? = (other.map Meeting.refused)[n]?

theorem Alike.tail {first : Meeting} {one other : List Meeting} (alike : Alike (first :: one) (first :: other)) :
    Alike one other := by
  intro n same
  exact alike (n + 1) (congrArg (first :: ·) same)

theorem Cursor.Meets.unique {cursor : Cursor} {uses : List FileUse} {one other : List Meeting}
    (meets : cursor.Meets uses one) (meets' : cursor.Meets uses other) (alike : Alike one other) :
    one = other := by
  induction meets generalizing other with
  | nil =>
    cases meets'
    rfl
  | @cons cursor use refused uses later rest ih =>
    cases meets' with
    | @cons _ _ refused' _ later' rest' =>
      have same : refused = refused' := Option.some.inj (alike 0 rfl)
      subst same
      exact congrArg _ (ih rest' alike.tail)

/-- A step of a run beside an open file: a use of the file with some session, or anything else. -/
inductive Move where
  | use (thread : Nat) (session : String) (use : FileUse)
  | other (act : Act)

def Move.use? : Move → Option FileUse
  | .use _ _ asked => some asked
  | .other _ => none

/-- A handler asked for a failure in between. -/
def refused (before after : Client engine) : Bool :=
  failureReply ∈ after.scene.ambient.replied.drop before.scene.ambient.replied.length

/-- What the uses of a file come to in a run. -/
def meetings [Formats] (client : Client engine) (file : String) : List Move → List Meeting
  | [] => []
  | .use thread session use :: rest =>
    let (sight, after) := useBy client session file thread use
    ⟨refused client after, sight.shown⟩ :: meetings after file rest
  | .other act :: rest => meetings (client.act act).2 file rest

/-- Each use goes with a session that is held at the time, and no other step deals with the file. -/
def Beside [Formats] (client : Client engine) (file : String) : List Move → Prop
  | [] => True
  | .use thread session use :: rest =>
    (∃ held, client.sessions.get? session = some held) ∧
      Beside (useBy client session file thread use).2 file rest
  | .other act :: rest => act.PassesFile file ∧ Beside (client.act act).2 file rest

/-- A client that came about properly holds a file as a cursor has it. -/
structure Keeps (client : Client engine) (file : String) (cursor : Cursor) : Prop where
  sound : client.holdings.Sound
  counted : client.scene.ambient.Counted
  file : ∃ held : File, client.files.get? file = some held ∧ Represents held cursor

namespace Keeps

variable {client : Client engine} {session file : String} {cursor : Cursor}

theorem other [Formats] (keeps : Keeps client file cursor) {act : Act} (passes : act.PassesFile file) :
    Keeps (client.act act).2 file cursor := by
  obtain ⟨held, there, shown⟩ := keeps.file
  exact ⟨Client.act_sound client act keeps.sound,
    Client.acts_counted client keeps.sound keeps.counted [act],
    held, Client.act_file_passed client passes there, shown⟩

/-- Without observers, the file and the session that goes with it are in good order. -/
theorem holds (keeps : Keeps client file cursor) {opened : Session}
    (there : client.sessions.get? session = some opened) :
    Holds client.unobserved session file (fun _ _ => .proceed)
      { cursor, errors := fun thread => (client.threads thread).lastError } := by
  obtain ⟨held, found, shown⟩ := keeps.file
  have small := (keeps.sound.files file held found).length
  unfold File.length at small
  rw [shown.content] at small
  refine ⟨⟨opened.unobserved, ?_⟩, ⟨held.unobserved, ?_, ?_, fun _ _ => rfl⟩, fun _ => rfl, small⟩
  · exact (Table.get?_map ..).trans (congrArg (Option.map Session.unobserved) there)
  · exact (Table.get?_map ..).trans (congrArg (Option.map File.unobserved) found)
  · exact ⟨shown.path, shown.content, shown.position, shown.canceled⟩

theorem of_unobserved {held : Option engine.File} {bare : File} {cursor : Cursor}
    (same : held.map File.unobserved = some bare) (shown : Represents bare cursor) :
    ∃ file : File, held = some file ∧ Represents file cursor := by
  obtain ⟨file, there, rfl⟩ := Option.map_eq_some_iff.mp same
  exact ⟨file, there, shown.path, shown.content, shown.position, shown.canceled⟩

end Keeps

variable {client : Client engine} {session file : String} {cursor : Cursor} {thread : Nat} {use : FileUse}

theorem useBy_refused [Formats] (desk : Desk) {ambient : Ambient}
    (fails : client.call thread (use.call session file) = ((use.call session file).sentinel (.failed simulated),
      (client.vacate (use.call session file)).faulted thread ambient)) :
    useBy client session file thread use =
      ((desk.fail thread use (.failed simulated)).1, client.faulted thread ambient) := by
  have vacates : client.vacate (use.call session file) = client := by cases use <;> rfl
  rw [vacates] at fails
  unfold useBy
  rw [fails]
  dsimp only
  rw [Client.lastError_faulted]
  cases use <;> rfl

theorem useBy_unobserved [Formats] (same : client.unobserved.call thread (use.call session file) =
      ((client.call thread (use.call session file)).1, (client.call thread (use.call session file)).2.unobserved)) :
    useBy client.unobserved session file thread use =
      ((useBy client session file thread use).1, (useBy client session file thread use).2.unobserved) := by
  unfold useBy
  rw [same]
  rfl

theorem unobserved_call (session file : String) (use : FileUse) :
    (use.call session file).unobserved = use.call session file := by cases use <;> rfl

section
variable [Formats]

/-- A use goes as on a desk, where it is refused if a handler refuses it. -/
theorem Keeps.meets (keeps : Keeps client file cursor) {opened : Session}
    (there : client.sessions.get? session = some opened) (thread : Nat) (use : FileUse) :
    let desk : Desk := { cursor, errors := fun thread => (client.threads thread).lastError }
    let got := useBy client session file thread use
    got.1 = (desk.meet (refused client got.2) thread use).1 ∧
      ∃ held : File, got.2.files.get? file = some held ∧
        Represents held (desk.meet (refused client got.2) thread use).2.cursor := by
  intro desk got
  obtain ⟨fresh, hears, quiet, faulty⟩ :=
    (client.call_obeys keeps.sound thread (use.call session file)).told_apart fun _ => rfl
  have replied : got.2.scene.ambient.replied = _ := hears.replied keeps.counted
  have asked : refused client got.2 = decide (failureReply ∈ client.scene.ambient.repliesTo fresh) := by
    unfold refused
    rw [replied, List.drop_left]
  by_cases failing : failureReply ∈ client.scene.ambient.repliesTo fresh
  · obtain ⟨ambient, -, fails⟩ := faulty failing
    obtain ⟨held, found, shown⟩ := keeps.file
    have same : got = _ := useBy_refused desk fails
    rw [asked, decide_eq_true failing, same]
    exact ⟨rfl, held, found, shown⟩
  · have bare := quiet failing
    rw [unobserved_call] at bare
    have same := useBy_unobserved bare
    obtain ⟨sight, kept⟩ := (keeps.holds there).use thread use
    obtain ⟨held, found, shown, -⟩ := kept.file
    rw [same] at sight found
    rw [asked, decide_eq_false failing]
    refine ⟨sight, ?_⟩
    exact Keeps.of_unobserved ((Table.get?_map ..).symm.trans found) shown

theorem Keeps.step (keeps : Keeps client file cursor) {opened : Session}
    (there : client.sessions.get? session = some opened) (thread : Nat) (use : FileUse) :
    let got := useBy client session file thread use
    got.1.shown = (cursor.meet (refused client got.2) use).1 ∧
      Keeps got.2 file (cursor.meet (refused client got.2) use).2 := by
  intro got
  obtain ⟨sight, held, found, represents⟩ := keeps.meets there thread use
  let desk : Desk := { cursor, errors := fun thread => (client.threads thread).lastError }
  obtain ⟨shown, left⟩ := Desk.meet_congr (show desk.cursor = Desk.cursor { cursor, errors := fun _ => (0, "") }
    from rfl) (refused client got.2) thread 0 use
  have counted : got.2.scene.ambient.Counted :=
    Client.acts_counted client keeps.sound keeps.counted [.call thread (use.call session file)]
  have sound : got.2.holdings.Sound :=
    Client.act_sound client (.call thread (use.call session file)) keeps.sound
  rw [left] at represents
  exact ⟨(congrArg Sight.shown sight).trans shown, sound, counted, held, found, represents⟩

/-- What the uses of a file come to is what the cursor has them come to, whatever else happens. -/
theorem Keeps.run (keeps : Keeps client file cursor) (moves : List Move) (beside : Beside client file moves) :
    cursor.Meets (moves.filterMap Move.use?) (meetings client file moves) := by
  induction moves generalizing client cursor with
  | nil => exact .nil
  | cons move rest ih =>
    cases move with
    | other act =>
      obtain ⟨passes, later⟩ := beside
      exact ih (keeps.other passes) later
    | use thread session use =>
      obtain ⟨⟨opened, there⟩, later⟩ := beside
      obtain ⟨shown, next⟩ := keeps.step there thread use
      have all := Cursor.Meets.cons (ih next later)
      rw [← shown] at all
      exact all

/-- Goes with a session that it leaves where it is, beside a file. -/
def Move.Apart (session file : String) : Move → Prop
  | .use _ used _ => used = session
  | .other act => act.PassesFile file ∧ act.SparesSession session

/-- A session that nobody ends can go with every use. -/
theorem beside_of_stays {client : Client engine} {file session : String} {held : Session}
    (there : client.sessions.get? session = some held) (moves : List Move)
    (apart : ∀ move ∈ moves, move.Apart session file) : Beside client file moves := by
  induction moves generalizing client with
  | nil => trivial
  | cons move rest ih =>
    obtain ⟨first, later⟩ := List.forall_mem_cons.mp apart
    cases move with
    | use thread other use =>
      have same : other = session := first
      subst same
      have spares : (Act.call thread (use.call other file)).SparesSession other := by
        cases use <;> exact ⟨nofun, nofun⟩
      exact ⟨⟨held, there⟩, ih ((Client.act_session_stays client spares).trans there) later⟩
    | other act =>
      exact ⟨first.1, ih ((Client.act_session_stays client first.2).trans there) later⟩

/-- Handlers that never ask for a failure refuse nothing. -/
theorem refused_kind {client : Client engine} (sound : client.holdings.Sound) (kind : client.scene.ambient.Kind)
    (act : Act) : refused client (client.act act).2 = false := by
  have never := (Client.acts_kind client sound kind [act]).replied
  exact decide_eq_false fun member => never (List.mem_of_mem_drop member)

theorem meetings_kind {client : Client engine} (sound : client.holdings.Sound)
    (kind : client.scene.ambient.Kind) (file : String) (moves : List Move) :
    (meetings client file moves).map Meeting.refused = (moves.filterMap Move.use?).map fun _ => false := by
  induction moves generalizing client with
  | nil => rfl
  | cons move rest ih =>
    have onward (act : Act) :=
      ih (Client.act_sound client act sound) (Client.acts_kind client sound kind [act])
    cases move with
    | other act => exact onward act
    | use thread session use =>
      let act : Act := .call thread (use.call session file)
      exact congrArg₂ List.cons (refused_kind sound kind act) (onward act)

end

theorem Alike.of_refused {one other : List Meeting}
    (same : one.map Meeting.refused = other.map Meeting.refused) : Alike one other := by
  intro n _
  rw [same]

/-- What a session has at a path is of a size that a machine can hold. -/
theorem contentAt?_length {client : Client engine} (sound : client.holdings.Sound) {session : String} {path : Given}
    {text : String} {content : List UInt8} (stored : contentAt? client session path = some (text, content)) :
    content.length < 9223372036854775808 := by
  unfold contentAt? at stored
  split at stored
  · obtain ⟨id, -, found⟩ := Option.bind_eq_some_iff.mp stored
    obtain ⟨bytes, found, same⟩ := Option.map_eq_some_iff.mp found
    cases same
    exact sound.world id _ _ found
  · cases stored

/-- A session serves what its cluster has, however long it lived. -/
theorem Client.acts_serve [Formats] (client : Client engine) (sound : client.holdings.Sound)
    (counted : client.scene.ambient.Counted) {name text : String} {held : Session} {id : ClusterId} {path : Given}
    (there : client.sessions.get? name = some held) (bound : held.cluster = some id)
    (made : id < client.holdings.world.clusterCount) (later : List Act)
    (spares : ∀ act ∈ later, act.SparesSession name) (thread : Nat) (into : Handle)
    (given : textOf? path = some text) :
    (client.acts later).2.Serves thread name path into
      ((later.filterMap (Act.stores? id text)).getLast?.getD (client.holdings.world.fileAt? id text)) := by
  have kept : (client.acts later).2.sessions.get? name = some held :=
    (Client.acts_session_stays client later spares).trans there
  have stored := Client.acts_fileAt? client made text later
  have serves := Client.call_serves (client.acts later).2
    (Client.acts_induction Client.act_sound client later sound) (Client.acts_counted client sound counted later)
    thread into kept bound given
  exact stored ▸ serves

/-- A run up to an open. -/
structure Opening where
  tree : Config.FileTree
  environment : Config.Variables
  replies : Replies
  history : List Act
  thread : Nat
  session : String
  path : Given
  file : String

namespace Opening

variable [Formats]

def before (opening : Opening) : Client engine :=
  ((Client.start opening.tree opening.environment opening.replies).acts opening.history).2

def opened (opening : Opening) : Answer × Client engine :=
  opening.before.call opening.thread (.openFile (some opening.session) opening.path (some opening.file))

/-- The path with its content, as the session has it at the time. -/
def content? (opening : Opening) : Option (String × List UInt8) :=
  contentAt? opening.before opening.session opening.path

theorem keeps {opening : Opening} (opens : opening.opened.1 = .handle true) :
    ∃ text content, opening.content? = some (text, content) ∧
      Keeps opening.opened.2 opening.file (.opened text content) := by
  have sound : opening.before.holdings.Sound := Client.reached_sound ..
  have counted : opening.before.scene.ambient.Counted :=
    Client.acts_counted _ (Client.start_sound ..) (Client.start_counted ..) _
  let act : Act := .call opening.thread (.openFile (some opening.session) opening.path (some opening.file))
  obtain ⟨text, content, stored, holds⟩ := opened_holds opens
  obtain ⟨held, found, shown, -⟩ := (holds (contentAt?_length sound stored)).file
  exact ⟨text, content, stored, Client.act_sound opening.before act sound,
    Client.acts_counted opening.before sound counted [act], held, found, shown⟩

/-- With kind handlers, a path opens if there is a file, and the session stays. -/
theorem served {opening : Opening} {held : Session} {id : ClusterId} {text : String} {bytes : List UInt8}
    (kind : (Client.start opening.tree opening.environment opening.replies).scene.ambient.Kind)
    (there : opening.before.sessions.get? opening.session = some held) (bound : held.cluster = some id)
    (given : textOf? opening.path = some text)
    (here : (opening.before.scene.world.clusters id).files.get? text = some bytes) :
    opening.opened.1 = .handle true ∧ opening.content? = some (text, bytes) ∧
      opening.opened.2.scene.ambient.Kind ∧ opening.opened.2.holdings.Sound ∧
      opening.opened.2.sessions.get? opening.session = some held := by
  have sound : opening.before.holdings.Sound := Client.reached_sound ..
  have kindly := Client.acts_kind _ (Client.start_sound ..) kind opening.history
  let act : Act := .call opening.thread (.openFile (some opening.session) opening.path (some opening.file))
  have opens := Client.kind_call_serves opening.before sound kindly opening.thread (some opening.file) there bound given
  rw [here] at opens
  refine ⟨opens, ?_, Client.acts_kind opening.before sound kindly [act],
    Client.act_sound opening.before act sound, ?_⟩
  · unfold content?
    rw [Client.contentAt?_bound there bound given, here]
    rfl
  · have spares : act.SparesSession opening.session := ⟨nofun, nofun⟩
    exact (Client.act_session_stays opening.before spares).trans there

end Opening

/-- The uses of an open file go alike in any two runs that opened it with the same content, whatever else
the runs do, as long as handlers reply alike. And a session opens, for as long as it lives, what is put
into the cluster that it was bound to, whatever becomes of the endpoint and the users. -/
theorem open_files_are_isolated [Formats] :
    (∀ one other : Opening, one.opened.1 = .handle true → other.opened.1 = .handle true →
      one.content? = other.content? → ∀ moves moves',
        Beside one.opened.2 one.file moves → Beside other.opened.2 other.file moves' →
        moves.filterMap Move.use? = moves'.filterMap Move.use? →
        Alike (meetings one.opened.2 one.file moves) (meetings other.opened.2 other.file moves') →
        meetings one.opened.2 one.file moves = meetings other.opened.2 other.file moves') ∧
    ∀ tree environment replies before thread call name, call.newSession? = some (some name) →
      let client := ((Client.start tree environment replies).acts before).2
      let connected := (client.call thread call).2
      (client.call thread call).1 = .handle true →
      ∃ id, (connected.sessions.get? name).bind Session.cluster = some id ∧
        client.scene.world.Registered client.scene.world.installed id ∧
        ∀ later, (∀ act ∈ later, act.SparesSession name) →
          ∀ thread' path text into, textOf? path = some text →
            (connected.acts later).2.Serves thread' name path into
              ((later.filterMap (Act.stores? id text)).getLast?.getD (client.scene.world.fileAt? id text)) := by
  constructor
  · intro one other opens opens' same moves moves' beside beside' uses alike
    obtain ⟨text, content, stored, keeps⟩ := Opening.keeps opens
    obtain ⟨text', content', stored', keeps'⟩ := Opening.keeps opens'
    cases (stored.symm.trans same).trans stored'
    have meets := keeps.run moves beside
    rw [uses] at meets
    exact meets.unique (keeps'.run moves' beside') alike
  · intro tree environment replies before thread call name makes client connected made
    have sound : client.holdings.Sound := Client.reached_sound ..
    have counted : client.scene.ambient.Counted :=
      Client.acts_counted _ (Client.start_sound ..) (Client.start_counted ..) _
    have changes := Client.call_changes client thread call
    rw [made] at changes
    obtain ⟨session, found, -, id, registered, bound⟩ := changes.made_session makes
    refine ⟨id, (congrArg (Option.bind · Session.cluster) found).trans bound, registered, ?_⟩
    intro later spares thread' path text into given
    have known : id < client.holdings.world.clusterCount :=
      World.Charted.made (Client.reached_charted tree environment replies before) registered
    have unchanged : connected.holdings.world.fileAt? id text = client.holdings.world.fileAt? id text :=
      congrArg (fun clusters => (clusters id).files.get? text) changes.clusters_eq.1
    have serves := Client.acts_serve connected (changes.sound sound)
      (Client.acts_counted client sound counted [.call thread call]) found bound
      (Client.act_made client (.call thread call) known) later spares thread' into given
    rw [unchanged] at serves
    exact serves

def reader : Opening where
  tree := ⟨fun _ => .missing⟩
  environment := {}
  replies _ _ _ := 0
  history := [.addCluster 0 "" 8020 "c", .putFile 0 "/a" ⟨[104, 105], by decide⟩,
    .call 0 (.connect none 8020 none (some "s"))]
  thread := 0
  session := "s"
  path := some [47, 97]
  file := "f"

/-- The same content elsewhere, with an observer. -/
def stranger : Opening where
  tree := ⟨fun _ => .missing⟩
  environment := {}
  replies _ _ _ := 7
  history := [.addCluster 0 "" 8020 "d", .putFile 0 "/b" ⟨[], by decide⟩, .putFile 0 "/a" ⟨[104, 105], by decide⟩,
    .call 1 (.observeFiles (some ⟨4096, 5⟩)), .call 1 (.connect none 8020 none (some "t"))]
  thread := 1
  session := "t"
  path := some [47, 97]
  file := "g"

open scoped Formats.Standard

theorem strangers_read_alike :
    let moves : List Move := [.use 0 "s" (.read 1 (some [0, 0])), .use 0 "s" .tell]
    let moves' : List Move := [.use 1 "t" (.read 1 (some [0, 0])),
      .other (.call 1 (.openFile (some "t") (some [47, 97]) (some "h"))),
      .other (.call 2 (.cancel (some "t") (some "h"))), .other (.removeFile 0 "/a"), .use 2 "t" .tell]
    reader.opened.1 = .handle true ∧ stranger.opened.1 = .handle true ∧
      meetings reader.opened.2 "f" moves = meetings stranger.opened.2 "g" moves' ∧
      (reader.before.acts [.removeCluster 0 "" 8020, .addCluster 0 "" 8020 "d", .denyUser 0 ""]).2.Serves 1 "s"
        (some [47, 97]) (some "f") (some [104, 105]) := by
  intro moves moves'
  have path : textOf? (some [47, 97]) = some "/a" := textOf?_of_encode rfl
  let held : Session := { engine := 0, user := "", options := {}, cluster := some 0 }
  have there : reader.before.sessions.get? reader.session = some held := by rfl
  have there' : stranger.before.sessions.get? stranger.session = some held := by rfl
  obtain ⟨opens, content, kind, sound, stays⟩ := Opening.served (Client.start_kind _ _ (by decide)) there rfl path rfl
  obtain ⟨opens', content', kind', sound', stays'⟩ :=
    Opening.served (Client.start_kind _ _ (by decide)) there' rfl path rfl
  refine ⟨opens, opens', ?_, ?_⟩
  · apply open_files_are_isolated.1 reader stranger opens opens' (content.trans content'.symm) moves moves'
    · apply beside_of_stays stays
      exact List.forall_mem_cons.mpr ⟨rfl, List.forall_mem_cons.mpr ⟨rfl, List.forall_mem_nil _⟩⟩
    · apply beside_of_stays stays'
      simp only [moves', List.forall_mem_cons]
      have opening : (Act.call 1 (.openFile (some "t") (some [47, 97]) (some "h"))).PassesFile "g" :=
        ⟨⟨by decide, by decide⟩, by decide⟩
      have canceling : (Act.call 2 (.cancel (some "t") (some "h"))).PassesFile "g" :=
        ⟨⟨by decide, by decide⟩, by decide⟩
      exact ⟨rfl, ⟨opening, by decide, by decide⟩, ⟨canceling, by decide, by decide⟩, ⟨trivial, trivial⟩, rfl,
        List.forall_mem_nil _⟩
    · rfl
    · apply Alike.of_refused
      exact (meetings_kind sound kind "f" moves).trans (meetings_kind sound' kind' "g" moves').symm
  · obtain ⟨id, bound, -, serves⟩ := open_files_are_isolated.2 reader.tree reader.environment reader.replies
      [.addCluster 0 "" 8020 "c", .putFile 0 "/a" ⟨[104, 105], by decide⟩] 0 (.connect none 8020 none (some "s")) "s"
      rfl rfl
    have first : some 0 = some id := bound
    cases first
    apply serves [.removeCluster 0 "" 8020, .addCluster 0 "" 8020 "d", .denyUser 0 ""] _ 1 _ "/a" _ path
    simp only [List.forall_mem_cons]
    exact ⟨trivial, trivial, trivial, List.forall_mem_nil _⟩

end Proofs
end DfsClient
