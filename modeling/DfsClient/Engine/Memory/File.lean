import DfsClient.Ambient

/-! Open files of the memory engine. A file keeps the bytes that its path had
when it was opened, so nothing that happens to the cluster later shows in it. -/

namespace DfsClient.Memory

structure File where
  cluster : String
  path : String
  bytes : List UInt8
  position : Nat := 0
  canceled : Bool := false
  observer : Option Observer := none

namespace File

variable {World : Type}

def length (file : File) : Nat := file.bytes.length

def slice (file : File) (offset count : Nat) : List UInt8 := (file.bytes.drop offset).take count

/-- Reads at an offset without moving. The observer is told of the count before
anything is stored. -/
def copyAt (file : File) (length offset : Nat) (scene : Scene World) :
    Result Transfer × Scene World :=
  if file.canceled then (.failed .canceled, scene)
  else
    let count := min length (file.length - min offset file.length)
    let event : Event := ⟨fileEvents.read, file.cluster, some file.path, Int64.ofNat count⟩
    match scene.tell? file.observer event with
    | (.fail status, scene) => (.failed status, scene)
    | (.proceed, scene) =>
      let message := "Read " ++ toString count ++ " bytes of " ++ file.path
        ++ " at offset " ++ toString offset
      (.ok ⟨count, file.slice offset count⟩, scene.log .trace .blockReader message)

def read (file : File) (length : Nat) (scene : Scene World) :
    Result Transfer × File × Scene World :=
  match file.copyAt length file.position scene with
  | (.answered (.ok transfer), scene) =>
    (.ok transfer, { file with position := file.position + transfer.count }, scene)
  | (result, scene) => (result, file, scene)

def readAt (file : File) (length offset : Nat) (scene : Scene World) :
    Result Transfer × File × Scene World :=
  let (result, scene) := file.copyAt length offset scene
  (result, file, scene)

def target (file : File) : SeekTarget → Int
  | .start offset => offset
  | .current delta => file.position + delta
  | .fromEnd delta => file.length + delta

def seek (file : File) (goal : SeekTarget) : Except Status Nat × File :=
  if file.canceled then (.error .canceled, file)
  else
    let target := file.target goal
    if 0 ≤ target ∧ target ≤ file.length then
      (.ok target.toNat, { file with position := target.toNat })
    else
      (.error (.invalidArgument ("Seek offset " ++ toString target ++ " outside of " ++ file.path
        ++ " (length " ++ toString file.length ++ ")")), file)

def cancel (file : File) (scene : Scene World) : File × Scene World :=
  ({ file with canceled := true },
    scene.log .debug .fileHandle ("Canceling operations on " ++ file.path))

end File
end DfsClient.Memory
