import DfsClient.Toml.Value

/-! The inline writer: a value on one line of its own, as it stands in an array.
Texts take the first style of quoting that fits them. To find it the writer counts
runs of quotes in one byte, so it has no style for a text with a longer run. -/

namespace DfsClient.Toml

/-- A whole number keeps a fraction, so that it reads back as a float. -/
def inlineFloat : Decimal.Format := { whole := ".0", nan := "nan" }

/-- Needs an escape in every style of quoting. -/
def isControl (c : Char) : Bool :=
  (decide (c.toNat < 0x20) && c != '\t' && c != '\n') || c == '\x7f'

def longestRun (mark : Char) : Nat → List Char → Nat
  | run, [] => run
  | run, c :: cs => if c = mark then longestRun mark (run + 1) cs else max run (longestRun mark 0 cs)

/-- The longest run of quotes that fits the writer's count. -/
def runLimit : Nat := 255

def hasShortRuns (cs : List Char) : Bool :=
  decide (longestRun '\'' 0 cs ≤ runLimit) && decide (longestRun '"' 0 cs ≤ runLimit)

inductive Quoting where
  | basic
  | literal
  | longBasic
  | longLiteral
deriving DecidableEq, Repr

def Quoting.isLong : Quoting → Bool
  | .longBasic | .longLiteral => true
  | _ => false

/-- The first style that shows the text as it is; where none does, the basic
style with escapes, long if the text has a line break. -/
def Quoting.of (cs : List Char) : Quoting :=
  let plain := !cs.any isControl
  let slash := cs.contains '\\'
  let line := cs.contains '\n'
  if plain && !slash && !line && !cs.contains '"' then .basic
  else if plain && !line && !cs.contains '\'' then .literal
  else if plain && !slash && longestRun '"' 0 cs ≤ 2 then .longBasic
  else if plain && longestRun '\'' 0 cs ≤ 2 then .longLiteral
  else if line then .longBasic else .basic

def upperHex (n : Nat) : List Char := (Nat.toDigits 16 n).map Char.toUpper

def escape? (c : Char) : Option (List Char) :=
  if c = '\x08' then some ['\\', 'b']
  else if c = '\t' then some ['\\', 't']
  else if c = '\n' then some ['\\', 'n']
  else if c = '\x0c' then some ['\\', 'f']
  else if c = '\r' then some ['\\', 'r']
  else if c = '"' then some ['\\', '"']
  else if c = '\\' then some ['\\', '\\']
  else if isControl c then
    let digits := upperHex c.toNat
    some (['\\', 'u'] ++ List.replicate (4 - digits.length) '0' ++ digits)
  else none

/-- The body of a basic text. The long style shows line breaks and up to two
quotes in a row; `quotes` counts those just shown. -/
def basicBody (long : Bool) : Nat → List Char → List Char
  | _, [] => []
  | quotes, c :: cs =>
    if long && c == '\n' then c :: basicBody long 0 cs
    else if long && c == '"' && quotes < 2 then c :: basicBody long (quotes + 1) cs
    else
      match escape? c with
      | some shown => shown ++ basicBody long 0 cs
      | none => c :: basicBody long 0 cs

def Quoting.fence : Quoting → List Char
  | .basic => ['"']
  | .literal => ['\'']
  | .longBasic => ['"', '"', '"']
  | .longLiteral => ['\'', '\'', '\'']

def Quoting.body (quoting : Quoting) (cs : List Char) : List Char :=
  match quoting with
  | .basic => basicBody false 0 cs
  | .longBasic => basicBody true 0 cs
  | .literal | .longLiteral => cs

/-- A long text with a line break starts on a line of its own. -/
def Quoting.write (quoting : Quoting) (cs : List Char) : List Char :=
  let opening := if quoting.isLong && cs.contains '\n' then ['\n'] else []
  quoting.fence ++ opening ++ quoting.body cs ++ quoting.fence

def quoteText (text : String) : String :=
  String.ofList ((Quoting.of text.toList).write text.toList)

def isBareKeyChar (c : Char) : Bool :=
  ('a' ≤ c && c ≤ 'z') || ('A' ≤ c && c ≤ 'Z') || ('0' ≤ c && c ≤ '9') || c == '-' || c == '_'

def keyStyle (cs : List Char) : Quoting :=
  let plain := !cs.any fun c => isControl c || c == '\n'
  if plain && !cs.contains '"' && !cs.contains '\\' then .basic
  else if plain && !cs.contains '\'' then .literal
  else .basic

def quoteKey (key : String) : String :=
  if key ≠ "" ∧ key.toList.all isBareKeyChar = true then key
  else String.ofList ((keyStyle key.toList).write key.toList)

mutual

def Value.inline : Value → String
  | .string text => quoteText text
  | .integer n => toString n.toInt
  | .float number => inlineFloat.write number
  | .boolean flag => if flag then "true" else "false"
  | .datetime datetime => datetime.text
  | .array items => "[" ++ String.intercalate ", " (inlineItems items) ++ "]"
  | .table [] => "\x7b\x7d"
  | .table entries => "\x7b " ++ String.intercalate ", " (inlineEntries entries) ++ " \x7d"

def inlineItems : List Value → List String
  | [] => []
  | item :: items => item.inline :: inlineItems items

def inlineEntries : List (String × Value) → List String
  | [] => []
  | (key, value) :: entries => (quoteKey key ++ " = " ++ value.inline) :: inlineEntries entries

/-- The values that the writer gets through. Keys are quoted without a count. -/
def Value.isWritable : Value → Bool
  | .string text => hasShortRuns text.toList
  | .array items => areItemsWritable items
  | .table entries => areEntriesWritable entries
  | _ => true

def areItemsWritable : List Value → Bool
  | [] => true
  | item :: items => item.isWritable && areItemsWritable items

def areEntriesWritable : List (String × Value) → Bool
  | [] => true
  | (_, value) :: entries => value.isWritable && areEntriesWritable entries

end

end DfsClient.Toml
