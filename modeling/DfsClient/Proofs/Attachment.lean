import DfsClient.Formats.Standard
import DfsClient.Proofs.Announcements
import DfsClient.Proofs.Lifetimes
import DfsClient.Proofs.Serving

/-! How observers stay attached. A session or file is observed, as long as it lives and whoever uses
it, by the monitor that its thread had attached last when it was made. -/

namespace DfsClient
open Memory

namespace Act

/-- What a step attaches to the next sessions of a thread, if that is what the step does. -/
def awaitsSessions? (thread : Nat) : Act → Option (Option Monitor)
  | .call other (.observeSessions monitor) => if other = thread then some monitor else none
  | _ => none

def awaitsFiles? (thread : Nat) : Act → Option (Option Monitor)
  | .call other (.observeFiles monitor) => if other = thread then some monitor else none
  | _ => none

end Act

/-- The monitor that was attached last, unless none was or the last one was taken away. -/
def lastMonitor (awaits : Act → Option (Option Monitor)) (history : List Act) : Option Monitor :=
  (history.filterMap awaits).getLast?.join

/-- The observer that a step makes wait in a slot, if it does so. -/
def observers (monitor? : Option (Option Monitor)) : Option (Option Observer) := monitor?.map (·.map .handler)

theorem observers_last (awaits : Act → Option (Option Monitor)) (history : List Act) :
    (history.filterMap fun act => observers (awaits act)).getLast?.getD none =
      (lastMonitor awaits history).map .handler := by
  have mapped : (history.filterMap fun act => observers (awaits act)) =
      (history.filterMap awaits).map (·.map .handler) := List.map_filterMap.symm
  unfold lastMonitor
  rw [mapped, List.getLast?_map]
  cases (history.filterMap awaits).getLast? with
  | none => rfl
  | some last => rfl

namespace Holdings

variable {held after : Holdings} {thread : Nat} {call : Call} {answer : Answer}

theorem Changes.sessionObserver_eq (changes : Changes thread held call answer after) (other : Nat) :
    after.sessionObserver other =
      (observers ((Act.call thread call).awaitsSessions? other)).getD (held.sessionObserver other) := by
  cases call with
  | observeSessions monitor =>
    cases changes with
    | awaitsSessions asks =>
      cases asks
      by_cases same : thread = other
      · subst same
        simp only [Act.awaitsSessions?, ↓reduceIte, Function.update_self]
        rfl
      · simp only [Act.awaitsSessions?, same, ↓reduceIte, Function.update_of_ne (Ne.symm same)]
        rfl
    | nothing idle => cases idle.attaches
    | connects asks | connectsNot asks | disconnects asks | opens asks | opensNot asks | uses asks
    | closes asks | awaitsFiles asks => cases asks
  | _ =>
    cases changes with
    | awaitsSessions asks => cases asks
    | _ => rfl

theorem Changes.fileObserver_eq (changes : Changes thread held call answer after) (other : Nat) :
    after.fileObserver other =
      (observers ((Act.call thread call).awaitsFiles? other)).getD (held.fileObserver other) := by
  cases call with
  | observeFiles monitor =>
    cases changes with
    | awaitsFiles asks =>
      cases asks
      by_cases same : thread = other
      · subst same
        simp only [Act.awaitsFiles?, ↓reduceIte, Function.update_self]
        rfl
      · simp only [Act.awaitsFiles?, same, ↓reduceIte, Function.update_of_ne (Ne.symm same)]
        rfl
    | nothing idle => cases idle.attaches
    | connects asks | connectsNot asks | disconnects asks | opens asks | opensNot asks | uses asks
    | closes asks | awaitsSessions asks => cases asks
  | _ =>
    cases changes with
    | awaitsFiles asks => cases asks
    | _ => rfl

end Holdings

namespace Client

theorem act_sessionObserver [Formats] (client : Client engine) (thread : Nat) (act : Act) :
    (client.act act).2.holdings.sessionObserver thread =
      (observers (act.awaitsSessions? thread)).getD (client.holdings.sessionObserver thread) := by
  cases act with
  | call other call => exact (call_changes client other call).sessionObserver_eq thread
  | _ => rfl

theorem act_fileObserver [Formats] (client : Client engine) (thread : Nat) (act : Act) :
    (client.act act).2.holdings.fileObserver thread =
      (observers (act.awaitsFiles? thread)).getD (client.holdings.fileObserver thread) := by
  cases act with
  | call other call => exact (call_changes client other call).fileObserver_eq thread
  | _ => rfl

section
variable (tree : Config.FileTree) (environment : Config.Variables) (replies : Replies) (thread : Nat)
  (history : List Act)

/-- Sessions that a thread makes are observed by what was attached to it last. -/
theorem reached_sessionObserver [Formats] :
    ((start tree environment replies).acts history).2.holdings.sessionObserver thread =
      (lastMonitor (Act.awaitsSessions? thread) history).map .handler := by
  rw [← observers_last]
  exact acts_last (fun client => client.holdings.sessionObserver thread)
    (fun act => observers (act.awaitsSessions? thread)) (fun _ _ (_ : True) => trivial)
    (fun client act _ => act_sessionObserver client thread act)
    (start tree environment replies) trivial history

theorem reached_fileObserver [Formats] :
    ((start tree environment replies).acts history).2.holdings.fileObserver thread =
      (lastMonitor (Act.awaitsFiles? thread) history).map .handler := by
  rw [← observers_last]
  exact acts_last (fun client => client.holdings.fileObserver thread)
    (fun act => observers (act.awaitsFiles? thread)) (fun _ _ (_ : True) => trivial)
    (fun client act _ => act_fileObserver client thread act)
    (start tree environment replies) trivial history

end

theorem audience_newSession {client : Client engine} {thread : Nat} {call : Call} {into : Handle}
    (makes : call.newSession? = some into) :
    client.audience thread call = (client.threads thread).sessionObserver := by
  cases call with
  | connect | connectBuilder => rfl
  | _ => cases makes

theorem audience_usedFile {client : Client engine} {thread : Nat} {call : Call} {file : Handle}
    (uses : call.usedFile? = some file) :
    client.audience thread call = (client.files.find? file).bind File.observer := by
  cases call with
  | read | readAt | seek | tell | cancel =>
    cases uses
    rfl
  | _ => cases uses

section
variable [Formats]

/-- A call tells nobody but a monitor, and tells that once if it is to be announced and succeeds. -/
def Notifies (client : Client engine) (thread : Nat) (call : Call) (monitor : Option Monitor) : Prop :=
  let (answer, after) := client.call thread call
  ∃ fresh, after.scene.ambient.notices = client.scene.ambient.notices ++ fresh ∧
    (∀ notice ∈ fresh, monitor = some notice.monitor) ∧
    (call.eventful = true → call.failing answer = false → fresh.length = monitor.toList.length)

theorem call_notifies (client : Client engine) (sound : client.holdings.Sound) (thread : Nat) (call : Call)
    {monitor : Option Monitor} (audience : client.audience thread call = monitor.map .handler) :
    client.Notifies thread call monitor := by
  obtain ⟨fresh, hears, -, -⟩ := (client.call_obeys sound thread call).told_apart fun _ => rfl
  refine ⟨fresh, hears.notices, fun notice member => ?_, fun eventful done => ?_⟩
  · have addressed := hears.addressed notice member
    rw [audience] at addressed
    obtain ⟨known, same, handler⟩ := Option.map_eq_some_iff.mp addressed
    cases handler
    exact same
  · have announced := client.call_announced sound thread eventful done
    have told : client.scene.ambient.told + fresh.length = _ := hears.told.symm.trans announced
    rw [audience, Option.toList_map, List.length_map] at told
    exact Nat.add_left_cancel told

/-- Whatever was attached last to a thread when it made a session or file is told of all that happens
to it, for as long as it lives and by whomever it is used. What is attached later never is. -/
theorem observers_stay_attached (tree : Config.FileTree) (environment : Config.Variables)
    (replies : Replies) (before : List Act) (thread : Nat) :
    let client := ((start tree environment replies).acts before).2
    let forSessions := lastMonitor (Act.awaitsSessions? thread) before
    let forFiles := lastMonitor (Act.awaitsFiles? thread) before
    (client.threads thread).sessionObserver = forSessions.map .handler ∧
      (client.threads thread).fileObserver = forFiles.map .handler ∧
      (∀ call into, call.newSession? = some into →
        client.Notifies thread call forSessions ∧
          ((client.call thread call).1 = .handle true → ∀ name later, into = some name →
            (∀ act ∈ later, act.SparesSession name) →
            let client := ((client.call thread call).2.acts later).2
            (∃ session : Session, client.sessions.get? name = some session ∧
                session.observer = forSessions.map .handler) ∧
              ∀ thread path into, client.Notifies thread (.openFile (some name) path into) forSessions)) ∧
      ∀ session path name, (client.call thread (.openFile session path (some name))).1 = .handle true →
        ∀ later, (∀ act ∈ later, act.SparesFile name) →
          let client := ((client.call thread (.openFile session path (some name))).2.acts later).2
          (∃ file : File, client.files.get? name = some file ∧ file.observer = forFiles.map .handler) ∧
            ∀ thread call, call.usedFile? = some (some name) → client.Notifies thread call forFiles := by
  intro client forSessions forFiles
  have sound : client.holdings.Sound := reached_sound tree environment replies before
  have sessions : client.holdings.sessionObserver thread = forSessions.map .handler :=
    reached_sessionObserver tree environment replies thread before
  have files : client.holdings.fileObserver thread = forFiles.map .handler :=
    reached_fileObserver tree environment replies thread before
  have kept (call : Call) (later : List Act) : ((client.call thread call).2.acts later).2.holdings.Sound :=
    acts_induction act_sound _ later ((call_changes client thread call).sound sound)
  refine ⟨sessions, files, fun call into makes => ⟨?_, ?_⟩, ?_⟩
  · apply client.call_notifies sound thread call
    rw [audience_newSession makes]
    exact sessions
  · intro made name later same spares reached
    subst same
    have changes := call_changes client thread call
    rw [made] at changes
    obtain ⟨session, found, observed, -⟩ := changes.made_session makes
    have there : reached.sessions.get? name = some session :=
      (acts_session_stays _ later spares).trans found
    have attached : session.observer = forSessions.map .handler := observed.trans sessions
    refine ⟨⟨session, there, attached⟩, fun user path into => ?_⟩
    apply call_notifies reached (kept call later) user
    exact (congrArg (Option.bind · Session.observer) there).trans attached
  · intro session path name made later spares reached
    have changes := call_changes client thread (.openFile session path (some name))
    rw [made] at changes
    obtain ⟨file, found, observed⟩ := changes.opened_file rfl
    obtain ⟨moved, there, moves⟩ := acts_file_stays _ later spares found
    have attached : moved.observer = forFiles.map .handler := (moves.observer.trans observed).trans files
    refine ⟨⟨moved, there, attached⟩, fun user call uses => ?_⟩
    apply call_notifies reached (kept _ later) user
    rw [audience_usedFile uses]
    exact (congrArg (Option.bind · File.observer) there).trans attached

end

theorem hello_fits : ([104, 101, 108, 108, 111] : List UInt8).length < 9223372036854775808 := by decide

/-- Monitors wait for the sessions of one thread and for the files of another. -/
def relay : List Act :=
  [.addCluster 0 "" 8020 "c", .putFile 0 "/a" ⟨[104, 101, 108, 108, 111], hello_fits⟩,
    .call 0 (.observeSessions (some ⟨4096, 5⟩)), .call 1 (.observeFiles (some ⟨8192, 6⟩))]

def relayed [Formats] (further : List Act) : Client engine :=
  ((start ⟨fun _ => .missing⟩ {} fun _ _ _ => 0).acts (relay ++ further)).2

open scoped Formats.Standard

theorem relay_is_observed :
    let connect := .connect none 8020 none (some "s")
    let openFile := .openFile (some "s") (some [47, 97]) (some "f")
    let (answer, connected) := (relayed []).call 0 connect
    let (answer', opened) := (relayed [.call 0 connect]).call 1 openFile
    answer = .handle true ∧ answer' = .handle true ∧
      (connected.acts [.call 0 (.observeSessions none)]).2.Notifies 1 openFile (some ⟨4096, 5⟩) ∧
      (opened.acts [.call 1 (.observeFiles none)]).2.Notifies 2
        (.read (some "s") (some "f") 2 true) (some ⟨8192, 6⟩) := by
  intro connect openFile
  have made : ((relayed []).call 0 connect).1 = .handle true := by rfl
  have opened : ((relayed [.call 0 connect]).call 1 openFile).1 = .handle true := by
    have path : Boundary.textOf? (some [47, 97]) = some "/a" := Boundary.textOf?_of_encode rfl
    have there : (relayed [.call 0 connect]).sessions.get? "s" = some
      ({ engine := 0, user := "", options := {}, cluster := some 0, observer := some (.handler ⟨4096, 5⟩) } :
        Session) := by rfl
    have kind : (relayed [.call 0 connect]).scene.ambient.Kind :=
      acts_kind _ (start_sound ..) (start_kind _ _ (by decide)) _
    exact (kind_call_serves _ (reached_sound ..) kind 1 (some "f") there rfl path).trans (by rfl)
  have forSessions : lastMonitor (Act.awaitsSessions? 0) (relay ++ []) = some ⟨4096, 5⟩ := by rfl
  have forFiles : lastMonitor (Act.awaitsFiles? 1) (relay ++ [.call 0 connect]) = some ⟨8192, 6⟩ := by rfl
  obtain ⟨-, -, sessions, -⟩ := observers_stay_attached ⟨fun _ => .missing⟩ {} (fun _ _ _ => 0) (relay ++ []) 0
  obtain ⟨-, -, -, files⟩ := observers_stay_attached ⟨fun _ => .missing⟩ {} (fun _ _ _ => 0)
    (relay ++ [.call 0 connect]) 1
  have told := ((sessions connect _ rfl).2 made "s" [.call 0 (.observeSessions none)] rfl
    (List.forall_mem_singleton.mpr ⟨by decide, by decide⟩)).2
    1 (some [47, 97]) (some "f")
  have read := (files _ _ _ opened [.call 1 (.observeFiles none)]
    (List.forall_mem_singleton.mpr ⟨by decide, by decide⟩)).2
    2 (.read (some "s") (some "f") 2 true) rfl
  rw [forSessions] at told
  rw [forFiles] at read
  exact ⟨made, opened, told, read⟩

end Client
end DfsClient
