import DfsClient.Config.Snapshot

/-! Documents as snapshots. Nested tables become keys joined by points; every
other value becomes text. Where the writer panics over a value, so does all of it. -/

namespace DfsClient.Config

open Toml

/-- A float alone is written without a needless fraction. -/
def plainFloat : Decimal.Format := { whole := "", nan := "NaN" }

def joinKey (outer : Option String) (key : String) : String :=
  match outer with
  | some outer => outer ++ "." ++ key
  | none => key

variable [Formats]

def scalarText : Value → Reply String
  | .string text => return text
  | .integer n => return toString n.toInt
  | .float number => return plainFloat.write number
  | .boolean flag => return if flag then "true" else "false"
  | .datetime datetime => return Formats.datetime datetime
  | value => Formats.inline value

def arrayText (items : List Value) : Reply String := do
  return String.intercalate "," (← items.mapM scalarText)

mutual

def flattenValue (snapshot : Snapshot) (key : String) : Value → Reply Snapshot
  | .table entries => flattenEntries snapshot (some key) entries
  | .array items => do return snapshot.withValue key (← arrayText items)
  | value => do return snapshot.withValue key (← scalarText value)

/-- Adds the entries of a table one after the other, so that a later entry wins. -/
def flattenEntries (snapshot : Snapshot) (outer : Option String) : Entries → Reply Snapshot
  | [] => return snapshot
  | (key, value) :: entries => do
    let snapshot ← flattenValue snapshot (joinKey outer key) value
    flattenEntries snapshot outer entries

end

def flatten (entries : Entries) : Reply Snapshot := flattenEntries .empty none entries

def overlay (base : Snapshot) (entries : Entries) : Reply Snapshot :=
  (flatten entries).map base.overlaidWith

def overlayText? (base : Snapshot) (text : String) : Option (Reply Snapshot) :=
  (Formats.document? text).map (overlay base)

end DfsClient.Config
