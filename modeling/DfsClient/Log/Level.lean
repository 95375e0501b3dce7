/-! Levels and source components of log records, with the numbers and names
under which callers know them. -/

namespace DfsClient.Log

inductive Level where
  | trace
  | debug
  | info
  | warning
  | error
deriving DecidableEq, Repr

namespace Level

def all : List Level := [.trace, .debug, .info, .warning, .error]

def code : Level → Int32
  | .trace => 0
  | .debug => 1
  | .info => 2
  | .warning => 3
  | .error => 4

def name : Level → String
  | .trace => "Trace"
  | .debug => "Debug"
  | .info => "Info"
  | .warning => "Warning"
  | .error => "Error"

def ofCode? (n : Int32) : Option Level := all.find? fun level => level.code = n

def reaches (level threshold : Level) : Bool := decide (threshold.code ≤ level.code)

end Level

inductive Component where
  | unknown
  | rpc
  | blockReader
  | fileHandle
  | fileSystem
deriving DecidableEq, Repr

namespace Component

def all : List Component := [.unknown, .rpc, .blockReader, .fileHandle, .fileSystem]

def bit : Component → UInt32
  | .unknown => 1
  | .rpc => 2
  | .blockReader => 4
  | .fileHandle => 8
  | .fileSystem => 16

def code (component : Component) : Int32 := component.bit.toInt32

def name : Component → String
  | .unknown => "Unknown"
  | .rpc => "RPC"
  | .blockReader => "BlockReader"
  | .fileHandle => "FileHandle"
  | .fileSystem => "FileSystem"

def ofCode? (n : Int32) : Option Component := all.find? fun component => component.code = n

end Component

theorem Level.ofCode?_code (level : Level) : Level.ofCode? level.code = some level := by
  cases level <;> rfl

theorem Component.ofCode?_code (component : Component) :
    Component.ofCode? component.code = some component := by
  cases component <;> rfl

end DfsClient.Log
