import DfsClient.Boundary.LastError
import DfsClient.Client.Basic

/-! The calls that a client program makes, and what they answer. A call runs on
one thread from beginning to end. -/

namespace DfsClient

open Boundary

inductive Call where
  | connect (host : Given) (port : UInt16) (user : Given) (into : Handle)
  | connectBuilder (builder into : Handle)
  | disconnect (session : Handle)
  | openFile (session : Handle) (path : Given) (into : Handle)
  | isOpenForRead (file : Handle)
  | closeFile (session file : Handle)
  | read (session file : Handle) (length : Int32) (present : Bool)
  | readAt (session file : Handle) (position : Int64) (length : Int32) (present : Bool)
  | seek (session file : Handle) (position : Int64)
  | tell (session file : Handle)
  | cancel (session file : Handle)
  | newBuilder (into : Handle)
  | newBuilderFrom (directory : Given) (into : Handle)
  | freeBuilder (builder : Handle)
  | changeBuilder (builder : Handle) (change : Change)
  | lookUpText (builder : Handle) (key : Given) (present : Bool)
  | lookUpInteger (builder : Handle) (key : Given) (present : Bool)
  | lookUpDefaultText (key : Given) (present : Bool)
  | lookUpDefaultInteger (key : Given) (present : Bool)
  | observeSessions (monitor : Option Monitor)
  | observeFiles (monitor : Option Monitor)
  | logTo (handler : Option Log.Handler)
  | filterLog (request : Log.Filter.Request)
  | fetchMessage (length : Int32) (present : Bool) (buffer : List UInt8)
deriving Repr

/-- What the program gets back. A number that stands for a failure is -1, unless
the call has a second one. -/
inductive Answer where
  | nothing
  | handle (present : Bool)
  | code (n : Int32)
  | position (n : Int64)
  /-- The count of bytes, and the bytes stored at the start of the buffer. -/
  | transfer (count : Int32) (stored : List UInt8)
  | text (code : Int32) (value : Option String)
  /-- Without a value, the place for it is left as it was. -/
  | integer (code : Int32) (value : Option Int32)
  | buffer (bytes : List UInt8)
deriving DecidableEq, Repr

namespace Answer

def ofUnit : Option Unit → Answer
  | some () => .code 0
  | none => .code (-1)

/-- Counts have 32 bits at the boundary and wrap there. -/
def ofTransfer : Option Transfer → Answer
  | some answer => .transfer (Int32.ofNat answer.count) answer.stored
  | none => .transfer (-1) []

/-- Positions have 64 bits at the boundary and wrap there. -/
def ofPosition : Option Nat → Answer
  | some n => .position (Int64.ofNat n)
  | none => .position (-1)

def ofText : Except Fault (Option String) → Answer
  | .ok value => .text 0 value
  | .error fault => .text fault.code none

def ofInteger : Except Fault Int32 → Answer
  | .ok value => .integer 0 (some value)
  | .error fault => .integer fault.code none

/-- Only the setting of a value answers a number. -/
def ofChange (result : Except Fault Builder) : Change → Answer
  | .value _ _ =>
    match result with
    | .ok _ => .code 0
    | .error fault => .code fault.code
  | _ => .nothing

end Answer

namespace Client

variable {engine : Engine}

def useFile {α : Type} (client : Client engine) (thread : Nat) (session file : Handle)
    (operation : Caller engine.World → Option engine.Session → Option engine.File →
      Option α × Option engine.File × Caller engine.World) : Option α × Client engine :=
  let (answer, held, caller) :=
    operation (client.caller thread) (client.sessions.find? session) (client.files.find? file)
  let client := client.resume thread caller
  (answer, { client with files := client.files.update file held })

def connect (client : Client engine) (thread : Nat) (host : Given) (port : UInt16) (user : Given)
    (into : Handle) : Answer × Client engine :=
  let (session, caller) := (client.caller thread).connectDirect host port user
  (.handle session.isSome, (client.resume thread caller).replaceSession into session)

def connectBuilder [Formats] (client : Client engine) (thread : Nat) (builder into : Handle) :
    Answer × Client engine :=
  let (session, caller) := (client.caller thread).connectBuilder (client.builders.find? builder)
  (.handle session.isSome, (client.resume thread caller).replaceSession into session)

/-- Whatever comes of it, the session is gone. -/
def disconnect (client : Client engine) (thread : Nat) (session : Handle) :
    Answer × Client engine :=
  let (answer, caller) := (client.caller thread).disconnect (client.sessions.find? session)
  let client := client.resume thread caller
  (.ofUnit answer, { client with sessions := client.sessions.update session none })

def openFile (client : Client engine) (thread : Nat) (session : Handle) (path : Given)
    (into : Handle) : Answer × Client engine :=
  let (file, held, caller) :=
    (client.caller thread).openFile (client.sessions.find? session) path
  let client := client.resume thread caller
  let client := { client with sessions := client.sessions.update session held }
  (.handle file.isSome, client.replaceFile into file)

def changeBuilder (client : Client engine) (thread : Nat) (builder : Handle) (change : Change) :
    Answer × Client engine :=
  let result := changed (client.builders.find? builder) change
  let (changed, caller) := (client.caller thread).accept result
  let client := client.resume thread caller
  (.ofChange result change,
    match changed with
    | some changed => client.keepBuilder builder (some changed)
    | none => client)

def reportFault {α : Type} (client : Client engine) (thread : Nat) (caller : Caller engine.World)
    (result : Except Fault α) : Client engine :=
  client.resume thread (caller.accept result).2

variable [Formats]

def call (client : Client engine) (thread : Nat) : Call → Answer × Client engine
  | .connect host port user into => client.connect thread host port user into
  | .connectBuilder builder into => client.connectBuilder thread builder into
  | .disconnect session => client.disconnect thread session
  | .openFile session path into => client.openFile thread session path into
  | .isOpenForRead file => (.code (if (client.files.find? file).isSome then 1 else 0), client)
  | .closeFile session file =>
    let (answer, client) := client.useFile thread session file Caller.close
    (.ofUnit answer, client)
  | .read session file length present =>
    let (answer, client) := client.useFile thread session file
      fun caller session file => caller.read session file length present
    (.ofTransfer answer, client)
  | .readAt session file position length present =>
    let (answer, client) := client.useFile thread session file
      fun caller session file => caller.readAt session file position length present
    (.ofTransfer answer, client)
  | .seek session file position =>
    let (answer, client) := client.useFile thread session file
      fun caller session file => caller.seek session file position
    (.ofUnit (answer.map fun _ => ()), client)
  | .tell session file =>
    let (answer, client) := client.useFile thread session file Caller.tell
    (.ofPosition answer, client)
  | .cancel session file =>
    let (answer, client) := client.useFile thread session file Caller.cancel
    (.ofUnit answer, client)
  | .newBuilder into =>
    let (builder, caller) := client.defaultBuilder (client.caller thread)
    (.handle builder.isSome, (client.resume thread caller).keepBuilder into builder)
  | .newBuilderFrom directory into =>
    let (builder, caller) := client.directoryBuilder (client.caller thread) directory
    (.handle builder.isSome, (client.resume thread caller).keepBuilder into builder)
  | .freeBuilder builder => (.nothing, client.keepBuilder builder none)
  | .changeBuilder builder change => client.changeBuilder thread builder change
  | .lookUpText builder key present =>
    let result := lookUpText (client.builders.find? builder) key present
    (.ofText result, client.reportFault thread (client.caller thread) result)
  | .lookUpInteger builder key present =>
    let result := lookUpInteger (client.builders.find? builder) key present
    (.ofInteger result, client.reportFault thread (client.caller thread) result)
  | .lookUpDefaultText key present =>
    match client.defaultBuilder (client.caller thread) with
    | (none, caller) => (.text (-1) none, client.resume thread caller)
    | (some builder, caller) =>
      let result := lookUpText (some builder) key present
      (.ofText result, client.reportFault thread caller result)
  | .lookUpDefaultInteger key present =>
    match client.defaultBuilder (client.caller thread) with
    | (none, caller) => (.integer (-1) none, client.resume thread caller)
    | (some builder, caller) =>
      let result := lookUpInteger (some builder) key present
      (.ofInteger result, client.reportFault thread caller result)
  | .observeSessions monitor =>
    let caller := client.caller thread
    let slots := { caller.slots with sessionObserver := monitor.map .handler }
    (.code 0, client.resume thread { caller with slots })
  | .observeFiles monitor =>
    let caller := client.caller thread
    let slots := { caller.slots with fileObserver := monitor.map .handler }
    (.code 0, client.resume thread { caller with slots })
  | .logTo handler =>
    let ambient := { client.scene.ambient with sink := .ofHandler? handler }
    (.nothing, { client with scene := { client.scene with ambient } })
  | .filterLog request =>
    let (code, filter) := client.scene.ambient.filter.request request
    let ambient := { client.scene.ambient with filter }
    (.code code, { client with scene := { client.scene with ambient } })
  | .fetchMessage length present buffer =>
    let message := Text.encode (client.threads thread).message
    (.buffer (fetchMessage message length present buffer), client)

def run (client : Client engine) : List (Nat × Call) → List Answer × Client engine
  | [] => ([], client)
  | (thread, next) :: rest =>
    let (answer, client) := client.call thread next
    let (answers, client) := client.run rest
    (answer :: answers, client)

end Client
end DfsClient
