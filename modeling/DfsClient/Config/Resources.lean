import DfsClient.Config.Flatten
import DfsClient.Config.SearchPath
import DfsClient.Text.Utf8
import DfsClient.Trace

/-! Resource files. The default resources are layered in a fixed order, each
taken from the first directory of the search path that has it; one that cannot
be read spoils them all. A value that has no text ends the load in a panic. -/

namespace DfsClient.Config

/-- Why a file has no text. -/
inductive Unreadable where
  | notFound
  | notDirectory
  | isDirectory
  | refused
  | invalidData
deriving DecidableEq, Repr

inductive Error where
  | unreadable (path : String) (reason : Unreadable)
  | malformed (path : String)
deriving DecidableEq, Repr

def Error.message : Error → String
  | .unreadable path _ => "failed to read configuration file \x60" ++ path ++ "\x60"
  | .malformed path => "failed to parse configuration file \x60" ++ path ++ "\x60"

def readText (tree : FileTree) (path : String) : Except Error String :=
  match tree.at? path with
  | .file bytes =>
    match Text.decode? bytes with
    | some text => .ok text
    | none => .error (.unreadable path .invalidData)
  | .refusing => .error (.unreadable path .refused)
  | .directory => .error (.unreadable path .isDirectory)
  | .missing => .error (.unreadable path .notFound)
  | .notDirectory => .error (.unreadable path .notDirectory)

def defaultResources : List String := ["core-site.toml", "hdfs-site.toml"]

variable [Formats]

def overlayFile (tree : FileTree) (base : Snapshot) (path : String) :
    Reply (Except Error Snapshot) :=
  match readText tree path with
  | .error error => .answered (.error error)
  | .ok text =>
    match overlayText? base text with
    | some reply => reply.map .ok
    | none => .answered (.error (.malformed path))

structure Layers where
  snapshot : Snapshot := {}
  found : Bool := false
  notes : List Trace := []

/-- Adds the resources in order and stops at the first that cannot be used. -/
def layer (tree : FileTree) (path : SearchPath) :
    List String → Layers → Reply (Option Snapshot) × List Trace
  | [], layers => (.answered (if layers.found then some layers.snapshot else none), layers.notes)
  | resource :: resources, layers =>
    match path.find? tree resource with
    | none =>
      let note : Trace :=
        ⟨.trace, "configuration resource not on the search path", [("resource", resource)]⟩
      layer tree path resources { layers with notes := layers.notes ++ [note] }
    | some file =>
      match overlayFile tree layers.snapshot file with
      | .answered (.ok snapshot) =>
        let note : Trace := ⟨.debug, "loaded configuration resource", [("path", file)]⟩
        layer tree path resources ⟨snapshot, true, layers.notes ++ [note]⟩
      | .answered (.error error) =>
        let note : Trace := ⟨.warn, "ignoring configuration resources", [("error", error.message)]⟩
        (.answered none, layers.notes ++ [note])
      | .panicked payload => (.panicked payload, layers.notes)

/-- The default resources on a search path, unless there are none or one is
spoilt, and what was noted on the way. -/
def loadDefaults (tree : FileTree) (path : SearchPath) : Reply (Option Snapshot) × List Trace :=
  layer tree path defaultResources {}

end DfsClient.Config
