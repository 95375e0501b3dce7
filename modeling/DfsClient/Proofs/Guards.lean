import DfsClient.Engine.Scripted
import DfsClient.Formats.Standard
import DfsClient.Proofs.CallJournal

/-! The checks that come before an engine is asked to open, use or close a file. They are made in a fixed order,
and the first that fails is the one that is reported. Where one fails, nothing else happens at all; where none does,
the engine is asked once. -/

namespace DfsClient
open Boundary

variable {engine : Engine}

/-- Something that is looked at before an engine is asked, and the error that is reported if it is found wrong. -/
structure Check where
  fails : Bool
  errno : Int32
  message : String

namespace Check

def session (absent : Bool) : Check :=
  ⟨absent, 19, "Cannot perform FS operations with null FS handle."⟩

def file (absent : Bool) : Check :=
  ⟨absent, 9, "Cannot perform FS operations with null File handle."⟩

def notNull (name : String) (absent : Bool) : Check :=
  ⟨absent, 22, "Argument \x60" ++ name ++ "\x60 must not be null"⟩

def utf8 (name : String) (invalid : Bool) : Check :=
  ⟨invalid, 22, "Argument \x60" ++ name ++ "\x60 is not valid UTF-8"⟩

def notNegative (name : String) (n : Int) : Check :=
  ⟨n < 0, 22, "Argument \x60" ++ name ++ "\x60 must not be negative"⟩

def error (check : Check) : LastError := (check.errno, check.message)

/-- Only a buffer without room may be absent. -/
def buffer (length : Int32) (present : Bool) : List Check :=
  [notNegative "length" length.toInt, notNull "buffer" (0 < length.toInt ∧ present = false)]

def path (given : Given) : List Check :=
  [notNull "path" given.isNone,
    utf8 "path" (given.any fun bytes => (Text.decode? (Text.beforeNul bytes)).isNone)]

/-- The first check that fails, if any does. -/
def first? (checks : List Check) : Option Check := checks.find? Check.fails

/-- Checks judge as the thread does that looks at the same: the first that fails says which error it is, and where
none fails something good is given. -/
inductive Judge {α : Type} (good : α → Prop) : Option Check → Except Fault α → Prop
  | passes {value : α} (fits : good value) : Judge good none (.ok value)
  | fails {check : Check} {fault : Fault} (error : fault.error = check.error) :
      Judge good (some check) (.error fault)

variable {α β : Type} {good : α → Prop} {check : Check} {rest : List Check}

theorem Judge.here (fails : check.fails = true) {fault : Fault} (error : fault.error = check.error) :
    Judge good (first? (check :: rest)) (.error fault) := by
  unfold first?
  rw [List.find?_cons_of_pos fails]
  exact .fails error

theorem Judge.later (passes : check.fails = false) {result : Except Fault α} (judge : Judge good (first? rest) result) :
    Judge good (first? (check :: rest)) result := by
  unfold first?
  rw [List.find?_cons_of_neg (ne_true_of_eq_false passes)]
  exact judge

theorem Judge.map {better : β → Prop} {value : α → β} {found : Option Check} {result : Except Fault α}
    (judge : Judge good found result) (keeps : ∀ x, good x → better (value x)) :
    Judge better found (result.map value) := by
  cases judge with
  | passes fits => exact .passes (keeps _ fits)
  | fails error => exact .fails error

theorem judge_nothing : Judge (fun _ : Unit => True) (first? []) (.ok ()) := .passes trivial

theorem judge_buffer (length : Int32) (present : Bool) :
    Judge (· = length.toInt.toNat) (first? (buffer length present)) (room length present) := by
  unfold room
  split
  next negative => exact .here (decide_eq_true negative) rfl
  next fits =>
    refine .later (decide_eq_false fits) ?_
    split
    next missing => exact .here (decide_eq_true missing) rfl
    next given => exact .later (decide_eq_false given) (.passes rfl)

theorem judge_offset (name : String) (position : Int64) :
    Judge (· = position.toInt.toNat) (first? [notNegative name position.toInt]) (offset name position) := by
  unfold offset
  split
  next negative => exact .here (decide_eq_true negative) rfl
  next fits => exact .later (decide_eq_false fits) (.passes rfl)

theorem judge_place (position : Int64) (length : Int32) (present : Bool) :
    Judge (· = (position.toInt.toNat, length.toInt.toNat))
      (first? (notNegative "position" position.toInt :: buffer length present)) (roomAt position length present) := by
  by_cases negative : position.toInt < 0
  · have refused : offset "position" position = .error (.negative "position") := if_pos negative
    unfold roomAt
    rw [refused]
    exact .here (decide_eq_true negative) rfl
  · rw [roomAt_of_nonneg negative]
    refine .later (decide_eq_false negative) ((judge_buffer length present).map fun count same => ?_)
    exact congrArg (Prod.mk position.toInt.toNat) same

theorem judge_path (given : Given) :
    Judge (fun text => ∃ bytes, given = some bytes ∧ Text.decode? (Text.beforeNul bytes) = some text)
      (first? (path given)) (requiredText "path" given) := by
  cases given with
  | none => exact .here rfl rfl
  | some bytes =>
    refine .later rfl ?_
    unfold requiredText
    dsimp only
    cases decoded : Text.decode? (Text.beforeNul bytes) with
    | none => exact .here (congrArg Option.isNone decoded) rfl
    | some text => exact .later (congrArg Option.isNone decoded) (.passes ⟨bytes, rfl, decoded⟩)

theorem judge_session (held : Option engine.Session) (given : Given) :
    Judge (fun opening => held = some opening.1 ∧
        ∃ bytes, given = some bytes ∧ Text.decode? (Text.beforeNul bytes) = some opening.2)
      (first? (session held.isNone :: path given)) (openable held given) := by
  cases held with
  | none => exact .here rfl rfl
  | some held => exact .later rfl ((judge_path given).map fun _ decoded => ⟨rfl, decoded⟩)

theorem judge_handles (held : Option engine.Session) (opened : Option engine.File) :
    Judge (opened = some ·) (first? [session held.isNone, file opened.isNone]) (checkedFile held opened) := by
  cases held with
  | none => exact .here rfl rfl
  | some held =>
    cases opened with
    | none => exact .later rfl (.here rfl rfl)
    | some opened => exact .later rfl (.later rfl (.passes rfl))

/-- Both handles are looked at before the other arguments. -/
theorem judge_use (held : Option engine.Session) (opened : Option engine.File) {arguments : Except Fault α}
    (judge : Judge good (first? rest) arguments) :
    Judge (fun given => opened = some given.1 ∧ good given.2)
      (first? (session held.isNone :: file opened.isNone :: rest)) (usable held opened arguments) := by
  cases held with
  | none => exact .here rfl rfl
  | some held =>
    cases opened with
    | none => exact .later rfl (.here rfl rfl)
    | some opened => exact .later rfl (.later rfl (judge.map fun _ fits => ⟨rfl, fits⟩))

end Check

namespace Client

/-- The session is looked at first, then the file, then what else is given. -/
def handles (client : Client engine) (session file : Handle) (rest : List Check) : List Check :=
  .session (client.sessions.find? session).isNone :: .file (client.files.find? file).isNone :: rest

/-- The checks of a call, in the order in which they are made. Only calls that open, use or close a file have any. -/
def checks (client : Client engine) : Call → Option (List Check)
  | .openFile session path _ => some (.session (client.sessions.find? session).isNone :: Check.path path)
  | .read session file length present => some (client.handles session file (Check.buffer length present))
  | .readAt session file position length present =>
    some (client.handles session file (.notNegative "position" position.toInt :: Check.buffer length present))
  | .seek session file position => some (client.handles session file [.notNegative "desiredPos" position.toInt])
  | .tell session file | .cancel session file | .closeFile session file => some (client.handles session file [])
  | _ => none

/-- What passes in a call whose arguments are in order: one exchange about the file, or an open and the attachment
of the observer that waits. -/
inductive AsksOnce (client : Client engine) (thread : Nat) : Call → List engine.Exchange → Prop
  | opens {session : Handle} {bytes : List UInt8} {into : Handle} {held left : engine.Session} {text : String}
      {journal : List engine.Exchange} {got : Option engine.File} (there : client.sessions.find? session = some held)
      (decoded : Text.decode? (Text.beforeNul bytes) = some text)
      (opening : Opening (client.threads thread).fileObserver held text left journal got) :
      AsksOnce client thread (.openFile session (some bytes) into) journal
  | reads {session file : Handle} {length : Int32} {present : Bool} {held left : engine.File}
      {result : Result Transfer} (there : client.files.find? file = some held) :
      AsksOnce client thread (.read session file length present) [.read held length.toInt.toNat result left]
  | readsAt {session file : Handle} {position : Int64} {length : Int32} {present : Bool} {held left : engine.File}
      {result : Result Transfer} (there : client.files.find? file = some held) :
      AsksOnce client thread (.readAt session file position length present)
        [.readAt held length.toInt.toNat position.toInt.toNat result left]
  | seeks {session file : Handle} {position : Int64} {held left : engine.File} {result : Result Nat}
      (there : client.files.find? file = some held) :
      AsksOnce client thread (.seek session file position) [.seek held (.start position.toInt.toNat) result left]
  | tells {session file : Handle} {held left : engine.File} {result : Result Nat}
      (there : client.files.find? file = some held) :
      AsksOnce client thread (.tell session file) [.seek held (.current 0) result left]
  | cancels {session file : Handle} {held left : engine.File} {reply : Reply Unit}
      (there : client.files.find? file = some held) :
      AsksOnce client thread (.cancel session file) [.cancel held reply left]
  | closes {session file : Handle} {held : engine.File} {reply : Reply Unit}
      (there : client.files.find? file = some held) :
      AsksOnce client thread (.closeFile session file) [.dropFile held reply]

/-- What the first check that fails, if any does, says of a call. -/
inductive Guarded [Formats] (client : Client engine) (thread : Nat) (call : Call) : Option Check → Prop
  | fails {check : Check} (asks : client.journal thread call = [])
      (answer : ∀ failure, (client.returned thread call).1 = call.sentinel failure)
      (after : (client.returned thread call).2 = client.reporting thread check.error) :
      Guarded client thread call (some check)
  | passes (asks : AsksOnce client thread call (client.journal thread call)) : Guarded client thread call none

variable {client : Client engine} {thread : Nat} {call : Call}

section
variable [Formats]

/-- Where a check fails, the thread reports it and the tables are as they were. -/
theorem Guarded.refused {fault : Fault} {check : Check} {answer : Answer}
    (error : fault.error = check.error) (denied : ∀ failure, answer = call.sentinel failure)
    (asks : client.journal thread call = []) (returned : client.returned thread call =
      (answer, client.resume thread ((client.caller thread).record (.refused fault)))) :
    Guarded client thread call (some check) := by
  rw [resume_refused, error] at returned
  refine .fails asks (fun failure => ?_) ?_
  · rw [returned]
    exact denied failure
  · rw [returned]

/-- A use of a file asks once if its checks pass. -/
theorem Guarded.of_uses {α β : Type} {session file : Handle} {arguments : Except Fault β}
    {exchange : engine.File → β → Result α → engine.File → engine.Exchange} {present : Option α → Answer}
    (uses : Uses client thread call session file arguments exchange present) {rest : List Check} {good : β → Prop}
    (judge : Check.Judge good (Check.first? rest) arguments) (denied : ∀ failure, present none = call.sentinel failure)
    (asks : ∀ held argument result left, client.files.find? file = some held → good argument →
      AsksOnce client thread call [exchange held argument result left]) :
    Guarded client thread call (Check.first? (client.handles session file rest)) := by
  obtain ⟨got, caller, acts, returned, -⟩ := uses
  have judged := Check.judge_use (client.sessions.find? session) (client.files.find? file) judge
  unfold handles
  generalize Check.first? _ = found at judged ⊢
  generalize usable _ _ arguments = wanted at acts judged
  generalize asked : client.journal thread call = journal at acts
  cases judged with
  | fails error =>
    cases acts with
    | refused fault =>
      rw [Table.update_find?] at returned
      exact .refused error denied asked returned
  | passes fits =>
    cases acts with
    | asked way serves =>
      obtain ⟨result, left, rfl, -⟩ := way
      refine .passes ?_
      rw [asked]
      exact asks _ _ result left fits.1 fits.2

theorem openFile_guarded (client : Client engine) (thread : Nat) (session : Handle) (path : Given) (into : Handle) :
    Guarded client thread (.openFile session path into)
      (Check.first? (.session (client.sessions.find? session).isNone :: Check.path path)) := by
  obtain ⟨got, caller, acts, returned, -⟩ := openFile_returns client thread session path into
  have judged := Check.judge_session (client.sessions.find? session) path
  generalize Check.first? _ = found at judged ⊢
  generalize openable _ path = wanted at acts judged
  generalize asked : client.journal thread _ = journal at acts
  cases judged with
  | fails error =>
    cases acts with
    | refused fault =>
      rw [Table.update_find?] at returned
      exact .refused error (fun _ => rfl) asked returned
  | passes fits =>
    cases acts with
    | asked way serves =>
      obtain ⟨there, bytes, rfl, decoded⟩ := fits
      obtain ⟨left, opening, -⟩ := way
      refine .passes ?_
      rw [asked]
      exact .opens there decoded opening

theorem closeFile_guarded (client : Client engine) (thread : Nat) (session file : Handle) :
    Guarded client thread (.closeFile session file) (Check.first? (client.handles session file [])) := by
  obtain ⟨got, caller, acts, returned, -⟩ := closeFile_returns client thread session file
  have judged := Check.judge_handles (client.sessions.find? session) (client.files.find? file)
  unfold handles
  generalize Check.first? _ = found at judged ⊢
  generalize checkedFile _ _ = wanted at acts judged
  generalize asked : client.journal thread _ = journal at acts
  cases judged with
  | fails error =>
    cases acts with
    | refused fault =>
      rw [Table.update_find?] at returned
      exact .refused error (fun _ => rfl) asked returned
  | passes there =>
    cases acts with
    | asked way serves =>
      obtain ⟨⟨reply, rfl, -⟩, -⟩ := way
      refine .passes ?_
      rw [asked]
      exact .closes there

theorem call_guarded (client : Client engine) (thread : Nat) {call : Call} {checks : List Check}
    (guarded : client.checks call = some checks) : Guarded client thread call (Check.first? checks) := by
  cases call with
  | openFile session path into =>
    cases guarded
    exact openFile_guarded client thread session path into
  | read session file length present =>
    cases guarded
    refine .of_uses (read_returns client thread session file length present) (Check.judge_buffer length present)
      (fun _ => rfl) fun held count result left there same => ?_
    subst same
    exact .reads there
  | readAt session file position length present =>
    cases guarded
    refine .of_uses (readAt_returns client thread session file position length present)
      (Check.judge_place position length present) (fun _ => rfl) fun held place result left there same => ?_
    subst same
    exact .readsAt there
  | seek session file position =>
    cases guarded
    refine .of_uses (seek_returns client thread session file position) (Check.judge_offset "desiredPos" position)
      (fun _ => rfl) fun held start result left there same => ?_
    subst same
    exact .seeks there
  | tell session file =>
    cases guarded
    exact .of_uses (tell_returns client thread session file) Check.judge_nothing (fun _ => rfl)
      fun held _ result left there _ => .tells there
  | cancel session file =>
    cases guarded
    exact .of_uses (cancel_returns client thread session file) Check.judge_nothing (fun _ => rfl)
      fun held _ result left there _ => .cancels there
  | closeFile session file =>
    cases guarded
    exact closeFile_guarded client thread session file
  | _ => cases guarded

/-- The first check that fails says how a call ends: it answers what stands for a failure, its error is the
thread's last error, and whatever the client holds is as it was. No observer is told and nothing is logged, and all
that is seen of it is the note that goes with every report. The engine is asked only where no check fails, and
then once. -/
theorem guards_precede_engine (client : Client engine) (thread : Nat) (call : Call) {checks : List Check}
    (guarded : client.checks call = some checks) :
    match checks.find? Check.fails with
    | some check =>
      client.journal thread call = [] ∧
        (client.returned thread call).2 = client.reporting thread check.error ∧
        ∀ failure, client.call thread call =
          (call.sentinel failure, (client.reporting thread check.error).keepNothing call)
    | none => AsksOnce client thread call (client.journal thread call) := by
  have judged := call_guarded client thread guarded
  change Guarded client thread call (checks.find? Check.fails) at judged
  generalize checks.find? Check.fails = found at judged ⊢
  cases judged with
  | fails asks answer after =>
    refine ⟨asks, after, fun failure => ?_⟩
    have null : (client.returned thread call).1 ≠ .handle true := by
      rw [answer failure]
      exact sentinel_ne call failure
    rw [call_keepNothing client thread call null, answer failure, after]
  | passes asks => exact asks

end

open scoped Formats.Standard

/-- A file that is null, in a session that is not, at a place and with a length that are both negative. -/
theorem null_file_precedes_negative_place :
    let client : Client Scripted.engine :=
      { scene := ⟨{}, {}⟩, tree := ⟨fun _ => .missing⟩, sessions := ⟨[("s", {})]⟩, files := ⟨[("f", ())]⟩ }
    let bad := Call.readAt (some "s") none (-1) (-1) false
    let early := Call.closeFile none (some "f")
    let good := Call.tell (some "s") (some "f")
    client.call 0 bad = (.transfer (-1) [],
        client.reporting 0 (9, "Cannot perform FS operations with null File handle.")) ∧
      client.call 0 early = (.code (-1),
        client.reporting 0 (19, "Cannot perform FS operations with null FS handle.")) ∧
      AsksOnce client 0 good (client.journal 0 good) := by
  intro client bad early good
  obtain ⟨-, -, denied⟩ := guards_precede_engine client 0 bad rfl
  obtain ⟨-, -, denied'⟩ := guards_precede_engine client 0 early rfl
  exact ⟨denied (.refused .nullFile), denied' (.refused .nullSession), guards_precede_engine client 0 good rfl⟩

end Client
end DfsClient
