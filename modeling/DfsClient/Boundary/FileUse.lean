import DfsClient.Boundary.Argument
import DfsClient.Boundary.Caller

/-! Operations on open files. Each first asks for both handles, then looks at
its other arguments, and only then turns to the engine. -/

namespace DfsClient.Boundary

variable {engine : Engine}

/-- The file to work on, which needs a session beside it. -/
def checkedFile (session : Option engine.Session) (file : Option engine.File) :
    Except Fault engine.File :=
  match session, file with
  | none, _ => .error .nullSession
  | some _, none => .error .nullFile
  | some _, some file => .ok file

namespace Caller

/-- Runs an operation on a file whose arguments are in order. The file comes
back as it then is. -/
def useFile {β α : Type} (caller : Caller engine.World) (session : Option engine.Session)
    (file : Option engine.File) (arguments : Except Fault β)
    (operation : engine.File → β → Scene engine.World →
      Result α × engine.File × Scene engine.World) :
    Option α × Option engine.File × Caller engine.World :=
  match checkedFile session file with
  | .error fault => (none, file, caller.record (.refused fault))
  | .ok held =>
    match arguments with
    | .error fault => (none, some held, caller.record (.refused fault))
    | .ok arguments =>
      let (result, held, scene) := operation held arguments caller.scene
      let (answer, caller) := { caller with scene }.settle result
      (answer, some held, caller)

def read (caller : Caller engine.World) (session : Option engine.Session)
    (file : Option engine.File) (length : Int32) (present : Bool) :
    Option Transfer × Option engine.File × Caller engine.World :=
  caller.useFile session file (room length present) engine.read

def readAt (caller : Caller engine.World) (session : Option engine.Session)
    (file : Option engine.File) (position : Int64) (length : Int32) (present : Bool) :
    Option Transfer × Option engine.File × Caller engine.World :=
  caller.useFile session file (roomAt position length present)
    fun file (start, count) => engine.readAt file count start

def seek (caller : Caller engine.World) (session : Option engine.Session)
    (file : Option engine.File) (position : Int64) :
    Option Nat × Option engine.File × Caller engine.World :=
  caller.useFile session file (offset "desiredPos" position)
    fun file start => engine.seek file (.start start)

/-- The cursor is told by moving it nowhere. -/
def tell (caller : Caller engine.World) (session : Option engine.Session)
    (file : Option engine.File) : Option Nat × Option engine.File × Caller engine.World :=
  caller.useFile session file (.ok ()) fun file () => engine.seek file (.current 0)

def cancel (caller : Caller engine.World) (session : Option engine.Session)
    (file : Option engine.File) : Option Unit × Option engine.File × Caller engine.World :=
  caller.useFile session file (.ok ()) fun file () scene =>
    let (reply, file, scene) := engine.cancel file scene
    (reply.map .ok, file, scene)

/-- Releases a file. A refused close leaves it with the caller. -/
def close (caller : Caller engine.World) (session : Option engine.Session)
    (file : Option engine.File) : Option Unit × Option engine.File × Caller engine.World :=
  match checkedFile session file with
  | .error fault => (none, file, caller.record (.refused fault))
  | .ok held =>
    let (reply, scene) := engine.dropFile held caller.scene
    let (answer, caller) := { caller with scene }.finish reply
    (answer, none, caller)

end Caller
end DfsClient.Boundary
