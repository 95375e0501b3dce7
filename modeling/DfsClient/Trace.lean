import DfsClient.Log.Record

/-! The structured diagnostics stream: a severity, a fixed message and named
fields in a fixed order. -/

namespace DfsClient

inductive Severity where
  | trace
  | debug
  | info
  | warn
  | error
deriving DecidableEq, Repr

namespace Severity

def name : Severity → String
  | .trace => "TRACE"
  | .debug => "DEBUG"
  | .info => "INFO"
  | .warn => "WARN"
  | .error => "ERROR"

def ofLevel : Log.Level → Severity
  | .trace => .trace
  | .debug => .debug
  | .info => .info
  | .warning => .warn
  | .error => .error

end Severity

structure Trace where
  severity : Severity
  message : String
  fields : List (String × String) := []
deriving DecidableEq, Repr

namespace Trace

def ofRecord (record : Log.Record) : Trace where
  severity := .ofLevel record.level
  message := record.message
  fields := ("component", record.component.name) ::
    match record.source with
    | some source => [("file", source.file), ("line", toString source.line.toNat)]
    | none => []

end Trace
end DfsClient
