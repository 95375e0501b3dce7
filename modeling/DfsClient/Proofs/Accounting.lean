import DfsClient.Formats.Standard
import DfsClient.Proofs.Attachment
import DfsClient.Proofs.Bindings
import DfsClient.Proofs.Clusters
import Mathlib.Algebra.Ring.Int.Defs

/-! The account of events. Observers are told of exactly what is due, step by step: of each connect to
an address, of each open with a session, and of each read of a file that is not canceled. What reads are
announced with is what they deliver. -/

namespace DfsClient
open Boundary Memory

/-- Calls that deliver bytes. -/
def Call.reads : Call → Bool
  | .read .. | .readAt .. => true
  | _ => false

namespace Memory

/-- A transfer brings as many bytes as the event says that is due for it, and no more than there is room. -/
structure Brings (room : Nat) (due : Option Event) (transfer : Transfer) : Prop where
  fits : transfer.count ≤ room
  whole : transfer.stored.length = transfer.count
  announced : ∃ event, due = some event ∧ event.name = "DN::read" ∧ event.value = Int64.ofNat transfer.count

/-- What a read answers: a failure, or the count that it was announced with and so many bytes. -/
inductive Reads (due : Option Event) : Answer → Prop
  | failed : Reads due (.transfer (-1) [])
  | done {event : Event} {count : Int32} {stored : List UInt8} (same : due = some event)
      (name : event.name = "DN::read") (counted : count.toInt = event.value.toInt)
      (whole : (stored.length : Int) = event.value.toInt) : Reads due (.transfer count stored)

theorem Brings.reads {length : Int32} {due : Option Event} {transfer : Transfer} (room : 0 ≤ length.toInt)
    (brings : Brings length.toInt.toNat due transfer) : Reads due (.ofTransfer (some transfer)) := by
  obtain ⟨fits, whole, event, same, name, value⟩ := brings
  have most := length.toInt_lt
  have wide : event.value.toInt = transfer.count := by
    rw [value]
    exact Int64.toInt_ofNat_of_lt (by omega)
  have narrow : (Int32.ofNat transfer.count).toInt = transfer.count := Int32.toInt_ofNat_of_lt (by omega)
  exact .done same name (narrow.trans wide.symm) ((congrArg Nat.cast whole).trans wide.symm)

end Memory

namespace Memory.File

variable {World : Type} {file : File} {length offset : Nat} {scene : Scene World} {transfer : Transfer}

theorem copyAt_brings (copied : (file.copyAt length offset scene).1 = .ok transfer) :
    Brings length (file.dueRead? length offset) transfer := by
  unfold copyAt at copied
  unfold dueRead?
  dsimp only at copied
  split at copied
  · cases copied
  next going =>
    rw [if_neg going]
    split at copied
    · cases copied
    · cases copied
      refine ⟨Nat.min_le_left .., ?_, _, rfl, rfl, rfl⟩
      simp only [slice, List.length_take, List.length_drop, File.length]
      omega

theorem read_brings (done : (file.read length scene).1 = .ok transfer) :
    Brings length (file.dueRead? length file.position) transfer := by
  rw [read_eq] at done
  exact copyAt_brings done

end Memory.File

namespace Boundary.Caller

variable {caller : Caller engine.World}

theorem useFile_done {α β : Type} {session : Option engine.Session} {file : Option engine.File}
    {arguments : Except Fault β}
    {operation : engine.File → β → Scene engine.World → Result α × engine.File × Scene engine.World}
    {answer : α} (used : (caller.useFile session file arguments operation).1 = some answer) :
    ∃ user held argument, session = some user ∧ file = some held ∧ arguments = .ok argument ∧
      (operation held argument caller.scene).1 = .ok answer := by
  cases session with
  | none => cases used
  | some user =>
    cases file with
    | none => cases used
    | some held =>
      cases arguments with
      | error fault => cases used
      | ok argument =>
        refine ⟨user, held, argument, rfl, rfl, rfl, ?_⟩
        rw [useFile_ok] at used
        generalize operation held argument caller.scene = got at used ⊢
        obtain ⟨result, after, scene⟩ := got
        match result with
        | .answered (.ok done) => exact congrArg Result.ok (Option.some.inj used)
        | .answered (.error status) => cases used
        | .panicked payload => cases used

end Boundary.Caller

/-- A step of a run in the account: what was due for it and who was to be told, what was told and what
was replied, and what came of it. -/
structure Entry where
  act : Act
  due : Option Event
  audience : Option Observer
  told : List Notice
  replied : List Int32
  answer : Answer
  lastError : LastError

namespace Entry

/-- A read that succeeded. -/
def delivers (entry : Entry) : Bool :=
  match entry.act with
  | .call _ call => call.reads && !call.failing entry.answer
  | _ => false

/-- The numbers that observers were told. -/
def values (entry : Entry) : List Int := entry.told.map fun notice => notice.event.value.toInt

def delivered (entry : Entry) : Int := entry.answer.stored.length

end Entry

/-- Every session and file that has an event due has an observer. -/
def Attended (account : List Entry) : Prop := ∀ entry ∈ account, entry.due.isSome → entry.audience.isSome

/-- A step that makes sessions or files does so on a thread to which an observer was attached before. -/
def Act.Attached (past : List Act) : Act → Prop
  | .call thread asked =>
    (asked.newSession?.isSome → (lastMonitor (Act.awaitsSessions? thread) past).isSome) ∧
      (asked.newFile?.isSome → (lastMonitor (Act.awaitsFiles? thread) past).isSome)
  | _ => True

/-- After a past, every session and file is made with an observer. -/
def Attached (past : List Act) : List Act → Prop
  | [] => True
  | act :: rest => act.Attached past ∧ Attached (past ++ [act]) rest

theorem noticesOf_crossing {observer : Option Observer} (crossing : Crossing observer) {due : Option Event}
    (attended : due.isSome → observer.isSome) :
    (noticesOf observer due).map Notice.event = due.toList.map Event.arrived := by
  cases due with
  | none => rw [noticesOf_none]; rfl
  | some event =>
    obtain ⟨one, rfl⟩ := Option.isSome_iff_exists.mp (attended rfl)
    obtain ⟨monitor, rfl⟩ := crossing one rfl
    rfl

namespace Client

section
variable [Formats]

def dueAt (client : Client engine) : Act → Option Event
  | .call _ call => client.due? call
  | _ => none

def audienceAt (client : Client engine) : Act → Option Observer
  | .call thread call => client.audience thread call
  | _ => none

def entry (client : Client engine) (act : Act) : Entry :=
  let (answer, after) := client.act act
  let told := client.toldSince after
  { act, told, answer
    due := client.dueAt act
    audience := client.audienceAt act
    replied := client.scene.ambient.repliesTo told
    lastError := (after.threads act.thread).lastError }

def account (client : Client engine) : List Act → List Entry
  | [] => []
  | act :: rest => client.entry act :: (client.act act).2.account rest

end

section
variable {client : Client engine} (sound : client.holdings.Sound)
include sound

theorem act_tells_due [Formats] (act : Act) :
    client.scene.ambient.Hears (client.audienceAt act) (noticesOf (client.audienceAt act) (client.dueAt act))
      (client.act act).2.scene.ambient := by
  cases act with
  | call thread call => exact call_tells_due client sound thread call
  | _ => exact .refl none _

theorem told_entry [Formats] (act : Act) :
    (client.entry act).told = noticesOf (client.audienceAt act) (client.dueAt act) :=
  toldSince_eq (act_tells_due sound act)

theorem audience_crossing (thread : Nat) (call : Call) : Crossing (client.audience thread call) := by
  have files (handle : Handle) : Crossing ((client.files.find? handle).bind File.observer) := by
    intro one there
    obtain ⟨file, found, same⟩ := Option.bind_eq_some_iff.mp there
    exact sound.file_crossing handle file found one same
  cases call with
  | connect | connectBuilder => exact sound.sessionObserver thread
  | openFile session path into =>
    intro one there
    obtain ⟨held, found, same⟩ := Option.bind_eq_some_iff.mp there
    exact sound.session_crossing session held found one same
  | read session file | readAt session file | seek session file | tell session file | cancel session file =>
    exact files file
  | _ => exact nofun

theorem entry_events [Formats] (act : Act)
    (attended : (client.entry act).due.isSome → (client.entry act).audience.isSome) :
    (client.entry act).told.map Notice.event = (client.entry act).due.toList.map Event.arrived := by
  have crossing : Crossing (client.audienceAt act) := by
    cases act with
    | call thread call => exact audience_crossing sound thread call
    | _ => exact nofun
  rw [told_entry sound]
  exact noticesOf_crossing crossing attended

/-- A handler that asks for a failure gets it, whatever else stood in the way of the call. -/
theorem entry_vetoed [Formats] {thread : Nat} {call : Call}
    (vetoed : failureReply ∈ (client.entry (.call thread call)).replied) :
    call.failing (client.entry (.call thread call)).answer = true ∧
      (client.entry (.call thread call)).lastError = (38, "Simulated error") := by
  obtain ⟨fresh, hears, -, faulty⟩ := (client.call_obeys sound thread call).told_apart fun _ => rfl
  have told : (client.entry (.call thread call)).told = fresh := toldSince_eq hears
  have unkind : failureReply ∈ client.scene.ambient.repliesTo fresh := told ▸ vetoed
  obtain ⟨ambient, tells, same⟩ := faulty unkind
  have answer : (client.entry (.call thread call)).answer = call.sentinel (.failed simulated) :=
    congrArg Prod.fst same
  have after : (client.call thread call).2 = (client.vacate call).faulted thread ambient :=
    congrArg Prod.snd same
  constructor
  · rw [answer]
    cases fresh with
    | nil => cases unkind
    | cons notice rest => exact failing_of_audience (tells.addressed notice List.mem_cons_self)
  · change ((client.call thread call).2.threads thread).lastError = _
    rw [after]
    exact lastError_faulted ..

end

theorem call_reads [Formats] (client : Client engine) (thread : Nat) {call : Call} (reads : call.reads = true) :
    Reads (client.due? call) (client.call thread call).1 := by
  cases call with
  | read session file length present =>
    let got := (client.caller thread).read (client.sessions.find? session) (client.files.find? file) length present
    change Reads _ (.ofTransfer got.1)
    cases used : got.1 with
    | none => exact .failed
    | some transfer =>
      obtain ⟨user, held, count, there, found, granted, read⟩ := Caller.useFile_done used
      obtain ⟨room, rfl⟩ := room_ok granted
      have due : client.due? (.read session file length present) =
          File.dueRead? held length.toInt.toNat (File.position held) := by
        unfold due?
        dsimp only
        rw [there, found, ← toOption_room, granted]
        rfl
      rw [due]
      exact (File.read_brings read).reads room
  | readAt session file position length present =>
    let got := (client.caller thread).readAt (client.sessions.find? session) (client.files.find? file) position
      length present
    change Reads _ (.ofTransfer got.1)
    cases used : got.1 with
    | none => exact .failed
    | some transfer =>
      obtain ⟨user, held, place, there, found, granted, read⟩ := Caller.useFile_done used
      obtain ⟨room, count⟩ := roomAt_ok granted
      have due : client.due? (.readAt session file position length present) =
          File.dueRead? held length.toInt.toNat place.1 := by
        unfold due?
        dsimp only
        rw [there, found, ← toOption_roomAt, granted, ← count]
        rfl
      have brings := File.copyAt_brings read
      rw [count] at brings
      rw [due]
      exact brings.reads room
  | _ => cases reads

/-- Nothing but reads brings bytes. -/
theorem call_brings_nothing [Formats] (client : Client engine) (thread : Nat) {call : Call} (idle : call.reads = false) :
    (client.call thread call).1.stored = [] := by
  have unit (result : Option Unit) : (Answer.ofUnit result).stored = [] := by
    cases result <;> rfl
  have text (result : Except Fault (Option String)) : (Answer.ofText result).stored = [] := by
    cases result <;> rfl
  have integer (result : Except Fault Int32) : (Answer.ofInteger result).stored = [] := by
    cases result <;> rfl
  cases call with
  | read | readAt => cases idle
  | disconnect | closeFile | seek | cancel => exact unit _
  | tell session file =>
    change (Answer.ofPosition (client.useFile thread session file Caller.tell).1).stored = []
    cases (client.useFile thread session file Caller.tell).1 <;> rfl
  | changeBuilder builder change =>
    change (Answer.ofChange (changed (client.builders.find? builder) change) change).stored = []
    cases change with
    | value => cases changed (client.builders.find? builder) _ <;> rfl
    | _ => rfl
  | lookUpText => exact text _
  | lookUpInteger => exact integer _
  | lookUpDefaultText key present =>
    simp only [Client.call]
    split
    · rfl
    · exact text _
  | lookUpDefaultInteger key present =>
    simp only [Client.call]
    split
    · rfl
    · exact integer _
  | _ => rfl

theorem failing_reads {call : Call} (reads : call.reads = true) (count : Int32) (stored : List UInt8) :
    call.failing (.transfer count stored) = (count == -1) := by
  cases call with
  | read | readAt => rfl
  | _ => cases reads

theorem reads_failing_or {due : Option Event} {answer : Answer} (reads : Reads due answer) {call : Call}
    (reading : call.reads = true) : call.failing answer = true ∧ answer.stored = [] ∨
      call.failing answer = false ∧ ∃ event, due = some event ∧ (answer.stored.length : Int) = event.value.toInt := by
  cases reads with
  | failed =>
    left
    exact ⟨failing_reads reading _ _, rfl⟩
  | @done event count stored same name counted whole =>
    right
    refine ⟨?_, event, same, whole⟩
    rw [failing_reads reading]
    refine beq_false_of_ne fun failed => ?_
    have negative : count.toInt = -1 := congrArg Int32.toInt failed
    omega

variable [Formats]

/-- A read that succeeds brings as many bytes as its observer was told. Nothing else brings bytes. -/
theorem entry_balances {client : Client engine} (sound : client.holdings.Sound) (act : Act)
    (attended : (client.entry act).due.isSome → (client.entry act).audience.isSome) :
    (client.entry act).delivers = true ∧ (client.entry act).values.sum = (client.entry act).delivered ∨
      (client.entry act).delivers = false ∧ (client.entry act).delivered = 0 := by
  have events := entry_events sound act attended
  cases act with
  | call thread call =>
    have delivers : (client.entry (.call thread call)).delivers =
        (call.reads && !call.failing (client.entry (.call thread call)).answer) := rfl
    cases reading : call.reads with
    | false =>
      right
      have nothing : (client.entry (.call thread call)).answer.stored = [] :=
        client.call_brings_nothing thread reading
      exact ⟨by rw [delivers, reading]; rfl, congrArg (fun stored => (List.length stored : Int)) nothing⟩
    | true =>
      have reads : Reads (client.entry (.call thread call)).due (client.entry (.call thread call)).answer :=
        client.call_reads thread reading
      obtain ⟨fails, nothing⟩ | ⟨succeeds, event, due, whole⟩ := reads_failing_or reads reading
      · right
        exact ⟨by rw [delivers, fails, reading]; rfl, congrArg (fun stored => (List.length stored : Int)) nothing⟩
      · left
        refine ⟨by rw [delivers, succeeds, reading]; rfl, ?_⟩
        have mapped := congrArg (List.map fun event : Event => event.value.toInt) events
        rw [List.map_map, due] at mapped
        have values : (client.entry (.call thread call)).values = [event.value.toInt] := mapped
        rw [values, List.sum_singleton]
        exact whole.symm
  | _ => exact .inr ⟨rfl, rfl⟩

theorem account_forall {good : Entry → Prop}
    (each : ∀ client : Client engine, client.holdings.Sound → ∀ act, good (client.entry act))
    (client : Client engine) (sound : client.holdings.Sound) (history : List Act) :
    ∀ entry ∈ client.account history, good entry := by
  induction history generalizing client with
  | nil => exact fun _ => nofun
  | cons act rest ih =>
    exact List.forall_mem_cons.mpr ⟨each client sound act, ih _ (act_sound client act sound)⟩

/-- All that was told was told in some step. -/
theorem account_told (client : Client engine) (sound : client.holdings.Sound) (history : List Act) :
    (client.acts history).2.scene.ambient.notices =
      client.scene.ambient.notices ++ (client.account history).flatMap Entry.told := by
  induction history generalizing client with
  | nil => exact (List.append_nil _).symm
  | cons act rest ih =>
    refine (ih _ (act_sound client act sound)).trans ?_
    rw [(act_tells_due sound act).notices, ← told_entry sound act, List.append_assoc]
    rfl

theorem account_events (client : Client engine) (sound : client.holdings.Sound) (history : List Act)
    (attended : Attended (client.account history)) :
    ((client.account history).flatMap Entry.told).map Notice.event =
      ((client.account history).filterMap Entry.due).map Event.arrived := by
  induction history generalizing client with
  | nil => rfl
  | cons act rest ih =>
    obtain ⟨first, later⟩ := List.forall_mem_cons.mp attended
    have events := entry_events sound act first
    have others := ih _ (act_sound client act sound) later
    unfold account
    rw [List.flatMap_cons, List.map_append, events, others]
    cases due : (client.entry act).due with
    | none =>
      rw [List.filterMap_cons_none due]
      rfl
    | some event =>
      rw [List.filterMap_cons_some due]
      rfl

theorem account_balances (client : Client engine) (sound : client.holdings.Sound) (history : List Act)
    (attended : Attended (client.account history)) :
    (((client.account history).filter Entry.delivers).flatMap Entry.values).sum =
      ((client.account history).map Entry.delivered).sum := by
  induction history generalizing client with
  | nil => rfl
  | cons act rest ih =>
    obtain ⟨first, later⟩ := List.forall_mem_cons.mp attended
    have balances := entry_balances sound act first
    have others := ih _ (act_sound client act sound) later
    unfold account
    rw [List.map_cons, List.sum_cons, ← others]
    obtain ⟨delivers, balance⟩ | ⟨idle, nothing⟩ := balances
    · rw [List.filter_cons_of_pos delivers, List.flatMap_cons, List.sum_append, balance]
    · rw [List.filter_cons_of_neg (by simp [idle]), nothing, Int.zero_add]

end Client

/-- All sessions and files are observed. -/
structure Holdings.Watched (held : Holdings) : Prop where
  sessions : held.sessions.Each fun session => session.observer.isSome
  files : held.files.Each fun file => file.observer.isSome

/-- What is made with an observer keeps it. -/
theorem Holdings.Changes.watched {thread : Nat} {held after : Holdings} {call : Call} {answer : Answer}
    (changes : Changes thread held call answer after) (watched : held.Watched)
    (connecting : call.newSession?.isSome → (held.sessionObserver thread).isSome)
    (opening : call.newFile?.isSome → (held.fileObserver thread).isSome) : after.Watched := by
  cases changes with
  | connects asks engine observer bound =>
    refine { watched with sessions := watched.sessions.update _ fun session same => ?_ }
    cases same
    rw [observer]
    exact connecting (asks ▸ rfl)
  | connectsNot | disconnects => exact { watched with sessions := watched.sessions.update _ fun _ => nofun }
  | opens asks position observer content =>
    refine { watched with files := watched.files.update _ fun file same => ?_ }
    cases same
    rw [observer]
    exact opening (asks ▸ rfl)
  | opensNot | closes => exact { watched with files := watched.files.update _ fun _ => nofun }
  | uses asks found moves =>
    refine { watched with files := watched.files.update _ fun file same => ?_ }
    cases same
    rw [moves.observer]
    exact watched.files.find found
  | awaitsSessions | awaitsFiles | nothing => exact ⟨watched.sessions, watched.files⟩

namespace Client

theorem due_attended [Formats] {client : Client engine} (watched : client.holdings.Watched) {thread : Nat} {call : Call}
    (connecting : call.newSession?.isSome → (client.holdings.sessionObserver thread).isSome)
    (due : (client.due? call).isSome) : (client.audience thread call).isSome := by
  have used {α : Type} {session file : Handle} {arguments : Option α} {due : engine.File → α → Option Event}
      (asked : (Caller.dueUse? (client.sessions.find? session) (client.files.find? file) arguments due).isSome) :
      ((client.files.find? file).bind File.observer).isSome := by
    unfold Caller.dueUse? at asked
    split at asked
    next _ _ _ _ found =>
      have observed := watched.files.find found
      exact (congrArg Option.isSome (congrArg (Option.bind · File.observer) found)).trans observed
    · cases asked
  cases call with
  | connect | connectBuilder => exact connecting rfl
  | openFile session path into =>
    cases found : client.sessions.find? session with
    | none =>
      unfold due? Caller.dueOpen? at due
      simp only [found] at due
      cases due
    | some held =>
      unfold audience
      simp only [found]
      exact watched.sessions.find found
  | read | readAt => exact used due
  | _ => cases due

section
variable (tree : Config.FileTree) (environment : Config.Variables) (replies : Replies) [Formats]

theorem acts_append (client : Client engine) (past later : List Act) :
    (client.acts (past ++ later)).2 = ((client.acts past).2.acts later).2 := by
  induction past generalizing client with
  | nil => rfl
  | cons first rest ih => exact ih (client.act first).2

theorem acts_concat (client : Client engine) (past : List Act) (act : Act) :
    (client.acts (past ++ [act])).2 = ((client.acts past).2.act act).2 := acts_append client past [act]

/-- Where observers are attached before anything is made, everything is observed. -/
theorem attached_attended (past : List Act)
    (watched : ((start tree environment replies).acts past).2.holdings.Watched) {history : List Act}
    (attached : Attached past history) :
    Attended (((start tree environment replies).acts past).2.account history) := by
  induction history generalizing past with
  | nil => exact fun _ => nofun
  | cons act rest ih =>
    obtain ⟨first, later⟩ := attached
    have next := acts_concat (start tree environment replies) past act
    generalize reached : ((start tree environment replies).acts past).2 = client at watched next
    have goes : ((client.entry act).due.isSome → (client.entry act).audience.isSome) ∧
        (client.act act).2.holdings.Watched := by
      obtain ⟨thread, call, rfl⟩ | ⟨other, edited⟩ := act_edits client act
      · have connecting (makes : call.newSession?.isSome) : (client.holdings.sessionObserver thread).isSome := by
          have waiting := reached_sessionObserver tree environment replies thread past
          rw [reached] at waiting
          rw [waiting, Option.isSome_map]
          exact first.1 makes
        have opening (makes : call.newFile?.isSome) : (client.holdings.fileObserver thread).isSome := by
          have waiting := reached_fileObserver tree environment replies thread past
          rw [reached] at waiting
          rw [waiting, Option.isSome_map]
          exact first.2 makes
        exact ⟨due_attended watched connecting, (call_changes client thread call).watched watched connecting opening⟩
      · refine ⟨fun due => ?_, ?_⟩
        · cases act with
          | call thread call => exact absurd rfl (other thread call)
          | _ => cases due
        · rw [edited]
          exact ⟨watched.sessions, watched.files⟩
    refine List.forall_mem_cons.mpr ⟨goes.1, ?_⟩
    have others := ih (past ++ [act]) (by rw [next]; exact goes.2) later
    rw [next] at others
    exact others

/-- A session stays bound to the cluster that was announced when it connected. -/
theorem session_stays_named (before : List Act) {thread : Nat} {call : Call} {name : String}
    (makes : call.newSession? = some (some name)) {later : List Act} (spares : ∀ act ∈ later, act.SparesSession name) :
    let client := ((start tree environment replies).acts before).2
    let after := ((client.call thread call).2.acts later).2
    (client.call thread call).1 = .handle true →
      ∃ session : Session, after.sessions.get? name = some session ∧
        after.scene.world.Named session.cluster (client.due? call) := by
  intro client after made
  obtain ⟨session, found, id, event, bound, due, named⟩ := call_binds makes made
  refine ⟨session, (acts_session_stays _ later spares).trans found, id, event, bound, due, ?_⟩
  have changes := call_changes client thread call
  have charted : client.holdings.world.Charted := reached_charted tree environment replies before
  have registered : id < client.holdings.world.clusterCount := by
    rw [made] at changes
    obtain ⟨made, there, -, cluster, registered, same⟩ := changes.made_session makes
    cases Option.some.inj (found.symm.trans there)
    cases Option.some.inj (bound.symm.trans same)
    exact charted.made registered
  have kept := acts_clusterName _ (act_made client (.call thread call) registered) later
  exact (named.trans (act_clusterName client (.call thread call) registered).symm).trans kept.symm

/-- A file stays of the cluster and the path of its opening. -/
theorem file_stays_opened (client : Client engine) {thread : Nat} {session : Handle} {path : Given} {name : String}
    (opened : (client.call thread (.openFile session path (some name))).1 = .handle true)
    {later : List Act} (spares : ∀ act ∈ later, act.SparesFile name) :
    ∃ file : File, ((client.call thread (.openFile session path (some name))).2.acts later).2.files.get? name =
      some file ∧ file.OpenedAs (client.due? (.openFile session path (some name))) path := by
  obtain ⟨file, found, event, due, cluster, given⟩ := call_opens opened
  obtain ⟨moved, there, moves⟩ := acts_file_stays _ later spares found
  refine ⟨moved, there, event, due, cluster.trans moves.cluster.symm, ?_⟩
  rw [moves.path]
  exact given

/-- An open is announced exactly when it has a session and a path, whether or not there is a file. -/
theorem open_due {client : Client engine} (sound : client.holdings.Sound) (session : Handle) (path : Given)
    (into : Handle) : (client.due? (.openFile session path into)).isSome ↔
      (client.sessions.find? session).isSome ∧ (textOf? path).isSome := by
  have due : client.due? (.openFile session path into) =
    Caller.dueOpen? client.scene.world (client.sessions.find? session) path := rfl
  rw [due]
  unfold Caller.dueOpen?
  cases found : client.sessions.find? session with
  | none => simp
  | some held =>
    cases textOf? path with
    | none => simp
    | some text =>
      have bound := (sound.sessions.find found).bound
      simp [Session.dueOpen?, bound]

end

/-- Observers are told of what is due in a run, step by step and of nothing else. Their failure replies
come before every other check. A read is announced with what it then brings. What is due names the
clusters and paths that sessions and files have kept since they were made. -/
theorem events_are_accounted [Formats] (tree : Config.FileTree) (environment : Config.Variables) (replies : Replies) :
    let begun := start tree environment replies
    (∀ history,
      let account := begun.account history
      let notices := (begun.acts history).2.scene.ambient.notices
      notices = account.flatMap Entry.told ∧
        (∀ entry ∈ account, entry.told = noticesOf entry.audience entry.due) ∧
        (∀ entry ∈ account, ∀ thread call, entry.act = .call thread call → failureReply ∈ entry.replied →
          call.failing entry.answer = true ∧ entry.lastError = (38, "Simulated error")) ∧
        (∀ entry ∈ account, ∀ thread call, entry.act = .call thread call → call.reads = true →
          Reads entry.due entry.answer) ∧
        (Attached [] history → Attended account) ∧
        (Attended account →
          notices.map Notice.event = (account.filterMap Entry.due).map Event.arrived ∧
          ((account.filter Entry.delivers).flatMap Entry.values).sum = (account.map Entry.delivered).sum)) ∧
    ∀ before,
      let client := (begun.acts before).2
      (∀ session path into, (client.due? (.openFile session path into)).isSome ↔
        (client.sessions.find? session).isSome ∧ (textOf? path).isSome) ∧
      ∀ thread call later, (client.call thread call).1 = .handle true →
        let after := ((client.call thread call).2.acts later).2
        (∀ name, call.newSession? = some (some name) → (∀ act ∈ later, act.SparesSession name) →
          ∃ session : Session, after.sessions.get? name = some session ∧
            after.scene.world.Named session.cluster (client.due? call)) ∧
        ∀ session path name, call = .openFile session path (some name) → (∀ act ∈ later, act.SparesFile name) →
          ∃ file : File, after.files.get? name = some file ∧ file.OpenedAs (client.due? call) path := by
  intro begun
  have sound : begun.holdings.Sound := start_sound tree environment replies
  refine ⟨fun history => ⟨account_told begun sound history, ?_, ?_, ?_, ?_, fun attended => ⟨?_, ?_⟩⟩,
    fun before => ⟨open_due (reached_sound tree environment replies before), fun thread call later made => ⟨?_, ?_⟩⟩⟩
  · exact account_forall (fun client sound act => told_entry sound act) begun sound history
  · refine account_forall (fun client sound act => ?_) begun sound history
    intro thread call same vetoed
    cases same
    exact entry_vetoed sound vetoed
  · refine account_forall (fun client sound act => ?_) begun sound history
    intro thread call same reads
    cases same
    exact client.call_reads thread reads
  · exact attached_attended tree environment replies [] ⟨fun _ _ => nofun, fun _ _ => nofun⟩
  · rw [account_told begun sound history]
    exact account_events begun sound history attended
  · exact account_balances begun sound history attended
  · intro name makes spares
    exact session_stays_named tree environment replies before makes spares made
  · rintro session path name rfl spares
    exact file_stays_opened _ made spares

/-- Handlers that let everything go on. -/
def obliged : Client engine := start ⟨fun _ => .missing⟩ {} fun _ _ _ => 7

/-- Observers are attached before there is a session. -/
def connectingWatched : List Act :=
  [.addCluster 0 "" 8020 "c", .putFile 0 "/a" ⟨[104, 101, 108], by decide⟩, .call 0 (.observeSessions (some ⟨4096, 5⟩)),
    .call 0 (.observeFiles (some ⟨4096, 6⟩)), .call 0 (.connect none 8020 none (some "s"))]

/-- A file is read, and once more when it is canceled. -/
def readingTwice : List Act :=
  [.call 0 (.openFile (some "s") (some [47, 97]) (some "f")), .call 0 (.read (some "s") (some "f") 2 true),
    .call 0 (.readAt (some "s") (some "f") 1 9 true), .call 0 (.cancel (some "s") (some "f")),
    .call 0 (.read (some "s") (some "f") 2 true)]

open scoped Formats.Standard

theorem reading_is_accounted :
    let account := obliged.account (connectingWatched ++ readingTwice)
    Attached [] (connectingWatched ++ readingTwice) ∧ Attended account ∧
      (obliged.acts (connectingWatched ++ readingTwice)).2.scene.ambient.notices.map Notice.event =
        [⟨"NN::connect", "c", none, 0⟩, ⟨"NN::read", "c", none, 0⟩, ⟨"DN::read", "c", some "/a", 2⟩,
          ⟨"DN::read", "c", some "/a", 2⟩] ∧
      ((account.filter Entry.delivers).flatMap Entry.values).sum = 4 ∧ (account.map Entry.delivered).sum = 4 := by
  obtain ⟨-, -, -, -, observed, accounted⟩ := (events_are_accounted ⟨fun _ => .missing⟩ {} fun _ _ _ => 7).1
    (connectingWatched ++ readingTwice)
  have attached : Attached [] (connectingWatched ++ readingTwice) :=
    ⟨trivial, trivial, ⟨nofun, nofun⟩, ⟨nofun, nofun⟩, ⟨fun _ => rfl, nofun⟩, ⟨nofun, fun _ => rfl⟩,
      ⟨nofun, nofun⟩, ⟨nofun, nofun⟩, ⟨nofun, nofun⟩, ⟨nofun, nofun⟩, trivial⟩
  obtain ⟨events, balance⟩ := accounted (observed attached)
  have there : (obliged.acts connectingWatched).2.sessions.find? (some "s") =
      some { engine := 0, user := "", options := {}, observer := some (.handler ⟨4096, 5⟩), cluster := some 0 } := by rfl
  have text : textOf? (some [47, 97]) = some "/a" := textOf?_of_encode rfl
  have path : requiredText "path" (some [47, 97]) = .ok "/a" := requiredText_of_textOf? text _
  have goesOn : obliged.account (connectingWatched ++ readingTwice) =
      obliged.account connectingWatched ++ (obliged.acts connectingWatched).2.account readingTwice := rfl
  have dues : (obliged.account (connectingWatched ++ readingTwice)).filterMap Entry.due =
      [⟨"NN::connect", "c", none, 0⟩, ⟨"NN::read", "c", none, 0⟩, ⟨"DN::read", "c", some "/a", 2⟩,
        ⟨"DN::read", "c", some "/a", 2⟩] := by
    rw [goesOn, List.filterMap_append]
    simp only [readingTwice, Client.account, entry, dueAt, due?, act, call, openFile, Caller.openFile, there, path,
      Caller.dueOpen?, text]
    rfl
  have delivered : ((obliged.account (connectingWatched ++ readingTwice)).map Entry.delivered).sum = 4 := by
    rw [goesOn, List.map_append]
    simp only [readingTwice, Client.account, entry, dueAt, due?, act, call, openFile, Caller.openFile, there, path,
      Caller.dueOpen?, text]
    rfl
  refine ⟨attached, observed attached, events.trans ?_, balance.trans delivered, delivered⟩
  exact congrArg (List.map Event.arrived) dues

/-- A cluster whose name has a NUL inside is announced under an empty name. -/
theorem name_with_nul_arrives_empty :
    let client := ((start ⟨fun _ => .missing⟩ {} fun _ _ _ => 0).acts
      [.addCluster 0 "" 8020 "a\x00b", .call 0 (.observeSessions (some ⟨4096, 5⟩))]).2
    (client.scene.world.clusters 0).name = "a\x00b" ∧
      (client.call 0 (.connect none 8020 none (some "s"))).2.scene.ambient.notices =
        [⟨⟨4096, 5⟩, ⟨"NN::connect", "", none, 0⟩⟩] :=
  ⟨rfl, rfl⟩

end Client
end DfsClient
