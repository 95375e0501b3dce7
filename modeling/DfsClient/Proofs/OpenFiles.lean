import DfsClient.Formats.Standard
import DfsClient.Proofs.FileMethods
import DfsClient.Proofs.Handles
import DfsClient.Proofs.Utf8

/-! Files that the memory engine opened behave as cursors. Whatever threads do with
such a file, in whatever order, they see what the cursor lets them see. -/

namespace DfsClient.Proofs
open Boundary

def FileUse.call (session file : String) : FileUse → Call
  | .read length buffer => .read (some session) (some file) length buffer.isSome
  | .readAt position length buffer =>
    .readAt (some session) (some file) position length buffer.isSome
  | .seek position => .seek (some session) (some file) position
  | .tell => .tell (some session) (some file)
  | .cancel => .cancel (some session) (some file)

/-- A use on a thread, as the thread sees it. -/
def useBy [Formats] (client : Client Memory.engine) (session file : String) (thread : Nat) (use : FileUse) :
    Sight × Client Memory.engine :=
  let (answer, after) := client.call thread (use.call session file)
  (⟨answer.number, (after.threads thread).lastError,
    answer.stored ++ use.buffer.drop answer.stored.length⟩, after)

def useAll [Formats] (client : Client Memory.engine) (session file : String) :
    List (Nat × FileUse) → List Sight × Client Memory.engine
  | [] => ([], client)
  | (thread, use) :: rest =>
    let (sight, client) := useBy client session file thread use
    let (sights, client) := useAll client session file rest
    (sight :: sights, client)

structure Holds (client : Client Memory.engine) (session file : String)
    (replies : Nat → Nat → Response) (desk : Desk) : Prop where
  session : ∃ held, client.sessions.get? session = some held
  file : ∃ held : Memory.File, client.files.get? file = some held ∧ Represents held desk.cursor ∧
    ∀ later count, client.scene.ambient.responseTo held.observer later (readEvent held count) =
      replies (desk.asked + later) count
  errors : ∀ thread, (client.threads thread).lastError = desk.errors thread
  small : desk.cursor.content.length < 9223372036854775808

theorem errors_resume {client : Client Memory.engine} {errors : Nat → LastError}
    (same : ∀ thread, (client.threads thread).lastError = errors thread) (thread : Nat)
    (caller : Caller Memory.engine.World) (other : Nat) :
    ((client.resume thread caller).threads other).lastError =
      Function.update errors thread caller.slots.lastError other := by
  by_cases itself : other = thread
  · subst itself
    simp [Client.resume]
  · rw [Client.threads_resume_other client caller itself, Function.update_of_ne itself, same]

namespace Holds

variable {client : Client Memory.engine} {session file : String} {replies : Nat → Nat → Response}
  {desk : Desk}

theorem keep (holds : Holds client session file replies desk) (thread : Nat)
    (caller : Caller Memory.engine.World) {held after : Memory.File} {cursor : Cursor} {times : Nat}
    (there : client.files.get? file = some held) (shown : Represents after cursor)
    (content : cursor.content = desk.cursor.content) (observer : after.observer = held.observer)
    (event : ∀ count, readEvent after count = readEvent held count)
    (asked : Asked held times client.scene caller.scene) :
    Holds { client.resume thread caller with files := client.files.set file after } session file
      replies ⟨cursor, desk.asked + times,
        Function.update desk.errors thread caller.slots.lastError⟩ := by
  refine ⟨holds.session, ⟨after, Table.get?_set_same .., shown, ?_⟩,
    fun other => errors_resume holds.errors thread caller other, by rw [content]; exact holds.small⟩
  intro later count
  obtain ⟨before, found, -, replying⟩ := holds.file
  cases there.symm.trans found
  rw [observer, event]
  change caller.scene.ambient.responseTo _ _ _ = _
  have order : desk.asked + (later + times) = desk.asked + times + later := by omega
  rw [asked later, replying, order]

/-- A use that fails leaves the file as it is, and only the error shows. -/
theorem failed (holds : Holds client session file replies desk) (thread : Nat) (use : FileUse)
    (failure : Failure) (caller : Caller Memory.engine.World) {held : Memory.File} {times : Nat}
    (there : client.files.get? file = some held) (slots : caller.slots = client.threads thread)
    (asked : Asked held times client.scene caller.scene) :
    (caller.record failure).slots.lastError =
        (Desk.fail { desk with asked := desk.asked + times } thread use failure).1.error ∧
      Holds { client.resume thread (caller.record failure) with files := client.files.set file held }
        session file replies (Desk.fail { desk with asked := desk.asked + times } thread use failure).2 := by
  have error : (caller.record failure).slots.lastError = failure.error?.getD (desk.errors thread) := by
    rw [Caller.lastError_record, slots, holds.errors]
  refine ⟨error, ?_⟩
  unfold Desk.fail
  rw [← error]
  obtain ⟨before, found, shown, -⟩ := holds.file
  cases there.symm.trans found
  refine holds.keep thread _ there shown rfl rfl (fun _ => rfl) fun later event => ?_
  rw [← asked later event]
  exact Ambient.responseTo_congr (Caller.record_keeps ..).1 (Caller.record_keeps ..).2 ..

/-- A use goes through a method of the engine once its arguments are in order. If the method
comes to what the cursor says, so does the call. -/
theorem step [Formats] {α β : Type} (holds : Holds client session file replies desk) (thread : Nat)
    (use : FileUse) (arguments : Except Fault β) (operation : β → Operation)
    (method : Memory.File → β → Scene Memory.engine.World →
      Result α × Memory.File × Scene Memory.engine.World)
    (present : Option α → Answer)
    (checked : use.operation = arguments.map operation)
    (called : client.call thread (use.call session file) =
      let (answer, after) := client.useFile thread (some session) (some file)
        fun caller session file => @Caller.useFile Memory.engine β α caller session file arguments method
      (present answer, after))
    (absent : (present none).number = -1 ∧ (present none).stored = [])
    (comes : ∀ argument held scene, arguments = .ok argument → Represents held desk.cursor →
      (∀ count, scene.ambient.responseTo held.observer 0 (readEvent held count) =
        replies desk.asked count) →
      ComesTo held scene present (desk.cursor.asks (operation argument)).toNat
        (desk.cursor.apply (replies desk.asked) (operation argument)) (method held argument scene)) :
    (useBy client session file thread use).1 = (desk.use replies thread use).1 ∧
      Holds (useBy client session file thread use).2 session file replies
        (desk.use replies thread use).2 := by
  obtain ⟨opened, found⟩ := holds.session
  obtain ⟨held, there, shown, asked⟩ := holds.file
  have session : client.sessions.find? (some session) = some opened := found
  have file : client.files.find? (some file) = some held := there
  unfold useBy
  rw [called]
  cases arguments with
  | error fault =>
    have refused : use.operation = .error fault := checked
    simp only [Client.useFile, session, file, Caller.useFile, checkedFile, Desk.use, refused, absent.1,
      absent.2, List.nil_append, List.length_nil, List.drop_zero, Client.resume, if_true]
    have asked : Asked held 0 client.scene (client.caller thread).scene := fun _ _ => rfl
    have failed := holds.failed thread use (.refused fault) (client.caller thread) there rfl asked
    exact ⟨congrArg (Sight.mk (-1) · use.buffer) failed.1, failed.2⟩
  | ok argument =>
    have asking : use.operation = .ok (operation argument) := checked
    have come := comes argument held client.scene rfl shown (asked 0)
    cases got : method held argument client.scene with
    | mk result rest =>
      obtain ⟨after, scene⟩ := rest
      rw [got] at come
      simp only [Client.useFile, session, file, Caller.useFile, checkedFile, Desk.use, asking,
        Client.caller, got]
      cases outcome : desk.cursor.apply (replies desk.asked) (operation argument) with
      | error status =>
        obtain ⟨rfl, rfl⟩ := come.failed status outcome
        simp only [Result.failed, Caller.settle, absent.1, absent.2, List.nil_append, List.length_nil,
          List.drop_zero, Client.resume, if_true]
        have failed := holds.failed thread use (.failed status) ⟨client.threads thread, scene⟩ there rfl
          come.asked
        exact ⟨congrArg (Sight.mk (-1) · use.buffer) failed.1, failed.2⟩
      | ok effect =>
        obtain ⟨shown, answer, rfl, number, stored⟩ := come.succeeded effect outcome
        simp only [Result.ok, Caller.settle, number, stored, Client.resume, if_true, holds.errors]
        have event (count : Nat) : readEvent after count = readEvent held count := by
          unfold readEvent
          rw [come.cluster, come.path]
        have kept := holds.keep thread ⟨client.threads thread, scene⟩ there shown
          (Cursor.content_apply outcome) come.observer event come.asked
        rw [holds.errors, Function.update_eq_self] at kept
        exact ⟨trivial, kept⟩

theorem room_eq (length : Int32) (buffer : Option (List UInt8)) :
    room length buffer.isSome = FileUse.roomOf length buffer := by
  unfold room FileUse.roomOf
  cases buffer <;> simp

theorem roomAt_eq (position : Int64) (length : Int32) (buffer : Option (List UInt8)) :
    (FileUse.readAt position length buffer).operation =
      (roomAt position length buffer.isSome).map fun place => .readAt place.1 place.2 := by
  unfold roomAt offset
  rw [room_eq]
  by_cases negative : position.toInt < 0
  · simp only [FileUse.operation, negative, ↓reduceIte]
    rfl
  · simp only [FileUse.operation, negative, ↓reduceIte]
    cases FileUse.roomOf length buffer <;> rfl

/-- A use shows a thread what the desk says, and leaves the file where the desk says. -/
theorem use [Formats] (holds : Holds client session file replies desk) (thread : Nat) (use : FileUse) :
    (useBy client session file thread use).1 = (desk.use replies thread use).1 ∧
      Holds (useBy client session file thread use).2 session file replies
        (desk.use replies thread use).2 := by
  cases use with
  | read length buffer =>
    refine holds.step thread _ (room length buffer.isSome) .read Memory.engine.read .ofTransfer
      (by rw [room_eq]; rfl) rfl ⟨rfl, rfl⟩ ?_
    intro count held scene granted shown replies
    obtain ⟨room, rfl⟩ := room_ok granted
    exact ComesTo.read shown scene replies length room
  | readAt position length buffer =>
    refine holds.step thread _ (roomAt position length buffer.isSome) (fun place => .readAt place.1 place.2)
      (fun file place => Memory.engine.readAt file place.2 place.1) .ofTransfer (roomAt_eq ..) rfl
      ⟨rfl, rfl⟩ ?_
    intro place held scene granted shown replies
    obtain ⟨room, count⟩ := roomAt_ok granted
    rw [count]
    exact ComesTo.readAt shown scene replies place.1 length room
  | seek position =>
    refine holds.step thread _ (offset "desiredPos" position) .seek
      (fun file start => Memory.engine.seek file (.start start))
      (fun answer => .ofUnit (answer.map fun _ => ())) ?_ rfl ⟨rfl, rfl⟩ ?_
    · by_cases negative : position.toInt < 0
      · simp only [FileUse.operation, offset, negative, ↓reduceIte]
        rfl
      · simp only [FileUse.operation, offset, negative, ↓reduceIte]
        rfl
    · intro target held scene _ shown _
      exact ComesTo.seek shown scene target
  | tell =>
    refine holds.step thread _ (.ok ()) (fun _ => .tell)
      (fun file _ => Memory.engine.seek file (.current 0)) .ofPosition rfl rfl ⟨rfl, rfl⟩ ?_
    intro _ held scene _ shown _
    exact ComesTo.tell shown scene holds.small
  | cancel =>
    refine holds.step thread _ (.ok ()) (fun _ => .cancel) (@Caller.canceling Memory.engine) .ofUnit
      rfl rfl ⟨rfl, rfl⟩ ?_
    intro _ held scene _ shown _
    exact ComesTo.cancel shown scene

theorem run [Formats] (holds : Holds client session file replies desk) (uses : List (Nat × FileUse)) :
    (useAll client session file uses).1 = (desk.run replies uses).1 ∧
      Holds (useAll client session file uses).2 session file replies (desk.run replies uses).2 := by
  induction uses generalizing client desk with
  | nil => exact ⟨rfl, holds⟩
  | cons next rest ih =>
    obtain ⟨thread, next⟩ := next
    obtain ⟨sight, kept⟩ := holds.use thread next
    obtain ⟨sights, last⟩ := ih kept
    exact ⟨congrArg₂ List.cons sight sights, last⟩

end Holds

def contentAt? (client : Client Memory.engine) (session : String) (path : Given) :
    Option (String × List UInt8) :=
  match client.sessions.get? session, textOf? path with
  | some (held : Memory.Session), some text =>
    held.cluster.bind fun id =>
      (Memory.Cluster.files (client.scene.world.clusters id)).get? text |>.map (text, ·)
  | _, _ => none

/-- How the observer of a file replies from now on. -/
def repliesTo (client : Client Memory.engine) (file : String) (asked count : Nat) : Response :=
  match client.files.get? file with
  | some (held : Memory.File) =>
    client.scene.ambient.responseTo held.observer asked (readEvent held count)
  | none => .proceed

theorem contentAt?_eq {client : Client Memory.engine} {session text : String} {path : Given}
    {held : Memory.engine.Session} {id : Memory.ClusterId} {content : List UInt8}
    (there : client.sessions.get? session = some held) (bound : Memory.Session.cluster held = some id)
    (given : textOf? path = some text)
    (here : (Memory.Cluster.files (client.scene.world.clusters id)).get? text = some content) :
    contentAt? client session path = some (text, content) := by
  unfold contentAt?
  simp only [there, given, bound, Option.bind_some, here, Option.map_some]

theorem repliesTo_eq {client : Client Memory.engine} {file : String} {held : Memory.engine.File}
    (there : client.files.get? file = some held) {asked count : Nat} :
    repliesTo client file asked count =
      client.scene.ambient.responseTo (Memory.File.observer held) asked (readEvent held count) := by
  unfold repliesTo
  rw [there]

/-- What a thread opens starts at the first byte of what its session has at the path. -/
theorem openFile_some {session : Memory.engine.Session} {path : Given}
    {before : Caller Memory.engine.World} {file : Memory.engine.File}
    (opens : (before.openFile (some session) path).1 = some file) :
    ∃ text id content, requiredText "path" path = .ok text ∧
      Memory.Session.cluster session = some id ∧
      (Memory.Cluster.files (before.scene.world.clusters id)).get? text = some content ∧
      Represents file (.opened text content) ∧
      ∃ held, (before.openFile (some session) path).2.1 = some held := by
  unfold Caller.openFile at opens ⊢
  cases given : requiredText "path" path with
  | error fault => simp only [given] at opens; cases opens
  | ok text =>
    cases got : Memory.engine.openFile session text before.scene with
    | mk result rest =>
      obtain ⟨held, scene⟩ := rest
      simp only [given, got] at opens ⊢
      match result with
      | .panicked payload => cases opens
      | .answered (.error status) => cases opens
      | .answered (.ok opened) =>
        obtain ⟨id, content, bound, here, same⟩ := Memory.Session.openFile_ok (congrArg Prod.fst got)
        refine ⟨text, id, content, rfl, bound, here, ?_, held, rfl⟩
        simp only [Caller.settle, Caller.adoptFile, observeFile] at opens
        subst same
        cases waiting : before.slots.fileObserver with
        | none => simp only [waiting] at opens; cases opens; exact ⟨rfl, rfl, rfl, rfl⟩
        | some observer => simp only [waiting] at opens; cases opens; exact ⟨rfl, rfl, rfl, rfl⟩

/-- An open that succeeds leaves the session where it was, beside a file that starts at
the first byte of its content. -/
theorem opened_holds [Formats] {client : Client Memory.engine} {session file : String} {path : Given}
    {thread : Nat}
    (opens : (client.call thread (.openFile (some session) path (some file))).1 = .handle true) :
    let opened := (client.call thread (.openFile (some session) path (some file))).2
    ∃ text content, contentAt? client session path = some (text, content) ∧
      (content.length < 9223372036854775808 →
        Holds opened session file (repliesTo opened file)
          { cursor := .opened text content
            errors := fun thread => (opened.threads thread).lastError }) := by
  simp only [Client.call, Client.openFile] at opens ⊢
  cases there : client.sessions.find? (some session) with
  | none => simp only [there] at opens; cases opens
  | some held =>
    cases got : (client.caller thread).openFile (some held) path with
    | mk answer rest =>
      obtain ⟨after, caller⟩ := rest
      simp only [there, got] at opens ⊢
      cases answer with
      | none => cases opens
      | some opened =>
        obtain ⟨text, id, content, given, bound, here, represents, kept, same⟩ :=
          openFile_some (congrArg Prod.fst got)
        have after : after = some kept := (congrArg (·.2.1) got).symm.trans same
        subst after
        refine ⟨text, content, ?_, fun small => ⟨⟨kept, Table.get?_set_same ..⟩,
          ⟨opened, Table.get?_set_same .., represents, fun later count => ?_⟩, fun _ => rfl, small⟩⟩
        · exact contentAt?_eq there bound (textOf?_of_requiredText given) here
        · rw [Nat.zero_add]
          exact (repliesTo_eq (Table.get?_set_same ..)).symm

/-- An opened file is seen by all threads as a cursor at its start, whatever they then do
with it, and stays what the cursor says. Once it is canceled all else that could be done fails for that reason. -/
theorem opened_file_is_a_cursor [Formats] {client : Client Memory.engine} {session file : String}
    {path : Given} {thread : Nat}
    (opens : (client.call thread (.openFile (some session) path (some file))).1 = .handle true) :
    let opened := (client.call thread (.openFile (some session) path (some file))).2
    ∃ text content, contentAt? client session path = some (text, content) ∧
      (content.length < 9223372036854775808 →
        let fresh : Desk :=
          { cursor := .opened text content
            errors := fun thread => (opened.threads thread).lastError }
        ∀ uses, (useAll opened session file uses).1 = (fresh.run (repliesTo opened file) uses).1 ∧
          (∃ held, (useAll opened session file uses).2.files.get? file = some held ∧
            Represents held (fresh.run (repliesTo opened file) uses).2.cursor) ∧
          ∀ thread use operation, (fresh.run (repliesTo opened file) uses).2.cursor.canceled = true →
            use.operation = .ok operation → operation ≠ .cancel →
            (useBy (useAll opened session file uses).2 session file thread use).1 =
              ⟨-1, (4, "Operation canceled"), use.buffer⟩) := by
  obtain ⟨text, content, there, holds⟩ := opened_holds opens
  refine ⟨text, content, there, fun small uses => ?_⟩
  obtain ⟨sights, kept⟩ := (holds small).run uses
  obtain ⟨held, found, shown, -⟩ := kept.file
  refine ⟨sights, ⟨held, found, shown⟩, fun thread use operation canceled valid other => ?_⟩
  exact (kept.use thread use).1.trans (Desk.use_canceled canceled _ thread valid other)

def greeted : Client Memory.engine where
  scene := ⟨{}, { clusters := fun _ => { name := "c", files := ⟨[("/a", [104, 101, 108, 108, 111])]⟩ } }⟩
  tree := ⟨fun _ => .missing⟩
  sessions := ⟨[("s", ({ engine := 0, user := "", options := {}, cluster := some 0 } : Memory.Session))]⟩

open scoped Formats.Standard

/-- Two threads at one file. The seek lies beyond its end, a buffer is missing, and then the file is canceled. -/
theorem hello_is_read :
    let opened := greeted.call 0 (.openFile (some "s") (some [47, 97]) (some "f"))
    let uses := [(0, .read 2 (some [0, 0, 0])), (1, .seek 9), (0, .readAt 3 4 none), (0, .tell),
      (1, .cancel), (0, .tell), (1, .read 1 (some [9]))]
    opened.1 = .handle true ∧
      (useAll opened.2 "s" "f" uses).1 =
        [⟨2, (0, ""), [104, 101, 0]⟩, ⟨-1, (22, "Seek offset 9 outside of /a (length 5)"), []⟩,
          ⟨-1, (22, "Argument \x60buffer\x60 must not be null"), []⟩,
          ⟨2, (22, "Argument \x60buffer\x60 must not be null"), []⟩,
          ⟨0, (22, "Seek offset 9 outside of /a (length 5)"), []⟩,
          ⟨-1, (4, "Operation canceled"), []⟩, ⟨-1, (4, "Operation canceled"), [9]⟩] := by
  intro opened uses
  have given : textOf? (some [47, 97]) = some "/a" := textOf?_of_encode rfl
  have path : requiredText "path" (some [47, 97]) = .ok "/a" := requiredText_of_textOf? given _
  have there : greeted.sessions.find? (some "s") =
      some ({ engine := 0, user := "", options := {}, cluster := some 0 } : Memory.Session) := rfl
  have opens : opened.1 = .handle true := by
    simp only [opened, Client.call, Client.openFile, Caller.openFile, there, path]
    rfl
  refine ⟨opens, ?_⟩
  obtain ⟨text, content, found, holds⟩ := opened_file_is_a_cursor opens
  have stored : contentAt? greeted "s" (some [47, 97]) = some ("/a", [104, 101, 108, 108, 111]) :=
    contentAt?_eq there rfl given rfl
  cases found.symm.trans stored
  refine (holds (by decide) _).1.trans ?_
  simp only [uses, Client.call, Client.openFile, Caller.openFile, there, path]
  rfl

end DfsClient.Proofs
