import DfsClient.Formats
import DfsClient.Text.Ascii
import DfsClient.Text.Blank
import DfsClient.Text.Integer

/-! Configuration snapshots: texts under keys, where a key counts up to ASCII
case. Entries are listed in the order of their keys. -/

namespace DfsClient

/-- Keys are kept folded. Text order is the order of code points, which is also
the order of the bytes. -/
structure Snapshot where
  entries : List (String × String) := []
deriving DecidableEq, Repr

namespace Snapshot

def empty : Snapshot := {}

/-- Puts a value under a key at the key's place in the order. -/
def place (key value : String) : List (String × String) → List (String × String)
  | [] => [(key, value)]
  | (other, held) :: rest =>
    if key < other then (key, value) :: (other, held) :: rest
    else if key = other then (key, value) :: rest
    else (other, held) :: place key value rest

def put (snapshot : Snapshot) (entry : String × String) : Snapshot :=
  ⟨place entry.1 entry.2 snapshot.entries⟩

def withValue (snapshot : Snapshot) (key value : String) : Snapshot :=
  snapshot.put (Text.fold key, value)

def overlaidWith (snapshot newer : Snapshot) : Snapshot := newer.entries.foldl put snapshot

def get? (snapshot : Snapshot) (key : String) : Option String :=
  snapshot.entries.lookup (Text.fold key)

def getD (snapshot : Snapshot) (key default : String) : String := (snapshot.get? key).getD default

def size (snapshot : Snapshot) : Nat := snapshot.entries.length

def isEmpty (snapshot : Snapshot) : Bool := snapshot.entries.isEmpty

/-- The 64-bit integer that a text is, blanks around it aside. -/
def integerOf? (text : String) : Option Int64 :=
  (Text.integer? (Text.trim text).toList).bind Text.int64?

def booleanOf? (text : String) : Option Bool :=
  let word := Text.trim text
  if Text.sameFolded word "true" then some true
  else if Text.sameFolded word "false" then some false
  else none

def urlOf? [Formats] (text : String) : Option Url := (Formats.url (Text.trim text)).toOption

def getInteger? (snapshot : Snapshot) (key : String) : Option Int64 :=
  (snapshot.get? key).bind integerOf?

def getBoolean? (snapshot : Snapshot) (key : String) : Option Bool :=
  (snapshot.get? key).bind booleanOf?

def getUrl? [Formats] (snapshot : Snapshot) (key : String) : Option Url := (snapshot.get? key).bind urlOf?

/-- Sets one key on request of a caller, who may not use a blank key. -/
def overlay? (snapshot : Snapshot) (key value : String) : Option Snapshot :=
  if Text.allBlank key then none else some (snapshot.withValue key value)

end Snapshot
end DfsClient
