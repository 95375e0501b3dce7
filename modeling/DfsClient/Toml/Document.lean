import DfsClient.Toml.Dated
import DfsClient.Toml.Number
import DfsClient.Toml.Tree

/-! Reading documents. Values nest and dotted keys extend to a fixed depth; a
reader answers the value and the rest of the text, or nothing. Every repetition
takes at least one character a time, so `size` characters allow for `size` of
them. -/

namespace DfsClient.Toml

/-- Arrays and inline tables may nest fewer times than this, and dotted keys
have fewer parts. -/
def depthLimit : Nat := 80

def isKeyChar (c : Char) : Bool :=
  ('a' ≤ c && c ≤ 'z') || ('A' ≤ c && c ≤ 'Z') || ('0' ≤ c && c ≤ '9') || c == '-' || c == '_'

def keyPart? (cs : List Char) : Option (String × List Char) :=
  match shortText? cs with
  | some (text, rest) => some (String.ofList text, rest)
  | none =>
    let bare := cs.takeWhile isKeyChar
    if bare = [] then none else some (String.ofList bare, cs.dropWhile isKeyChar)

/-- At most so many parts joined by points, with blanks around each. -/
def keyParts? : Nat → List Char → Option (List String × List Char)
  | 0, _ => none
  | room + 1, cs =>
    match keyPart? (skipBlanks cs) with
    | none => none
    | some (part, rest) =>
      match skipBlanks rest with
      | '.' :: more => (keyParts? room more).map fun (parts, rest) => (part :: parts, rest)
      | rest => some ([part], rest)

def key? (cs : List Char) : Option (List String × List Char) := keyParts? (depthLimit - 1) cs

def splitKey? (parts : List String) : Option (List String × String) :=
  parts.getLast?.map fun key => (parts.dropLast, key)

def items? (item? : List Char → Option (Value × List Char)) :
    Nat → List Char → Option (List Value × List Char)
  | 0, _ => none
  | size + 1, cs =>
    match skipGap false cs with
    | ']' :: rest => some ([], rest)
    | start =>
      match item? start with
      | none => none
      | some (item, rest) =>
        match skipGap false rest with
        | ']' :: rest => some ([item], rest)
        | ',' :: rest => (items? item? size rest).map fun (items, rest) => (item :: items, rest)
        | _ => none

/-- `key = value`, with blanks around both. -/
def pair? (item? : List Char → Option (Value × List Char)) (cs : List Char) :
    Option ((List String × Value) × List Char) := do
  let (key, rest) ← key? cs
  let rest ← mark? '=' rest
  let (value, rest) ← item? (skipBlanks rest)
  some ((key, value), rest)

/-- The pairs of an inline table after its opening brace, at least one. -/
def pairs? (item? : List Char → Option (Value × List Char)) :
    Nat → List Char → Option (List (List String × Value) × List Char)
  | 0, _ => none
  | size + 1, cs =>
    match pair? item? cs with
    | none => none
    | some (pair, rest) =>
      match skipBlanks rest with
      | '\x7d' :: rest => some ([pair], rest)
      | ',' :: rest => (pairs? item? size rest).map fun (pairs, rest) => (pair :: pairs, rest)
      | _ => none

/-- An inline table follows the rules of a document that consists of its pairs. -/
def ofPairs? (pairs : List (List String × Value)) : Option Value := do
  let branch ← pairs.foldlM (fun branch (key, value) => do
    let (path, key) ← splitKey? key
    Branch.addValue branch path key value) (Branch.empty .header)
  some (.table branch.toEntries)

def inlineTable? (item? : List Char → Option (Value × List Char)) (size : Nat) (cs : List Char) :
    Option (Value × List Char) :=
  match skipBlanks cs with
  | '\x7d' :: rest => (ofPairs? []).map fun value => (value, rest)
  | _ => do
    let (pairs, rest) ← pairs? item? size cs
    let value ← ofPairs? pairs
    some (value, rest)

def word? (word : List Char) (value : Value) (cs : List Char) : Option (Value × List Char) :=
  if word.isPrefixOf cs then some (value, cs.drop word.length) else none

/-- A value in which arrays and inline tables nest at most `room` times. -/
def value? (size : Nat) : Nat → List Char → Option (Value × List Char)
  | _, [] => none
  | room, c :: cs =>
    if c = '"' ∨ c = '\'' then
      (quotedText? (c :: cs)).map fun (text, rest) => (.string (String.ofList text), rest)
    else if c = '[' then
      match room with
      | 0 => none
      | room + 1 => (items? (value? size room) size cs).map fun (items, rest) => (.array items, rest)
    else if c = '\x7b' then
      match room with
      | 0 => none
      | room + 1 => inlineTable? (value? size room) size cs
    else if c = '+' ∨ c = '-' ∨ Text.isDigit c = true then numberValue? (c :: cs)
    else if c = 't' then word? ['t', 'r', 'u', 'e'] (.boolean true) (c :: cs)
    else if c = 'f' then word? ['f', 'a', 'l', 's', 'e'] (.boolean false) (c :: cs)
    else if c = 'i' ∨ c = 'n' then
      (namedFloat? false (c :: cs)).map fun (number, rest) => (.float number, rest)
    else none

def statement? (size : Nat) (growth : Growth) : List Char → Option (Growth × List Char)
  | '[' :: '[' :: cs => do
    let (key, rest) ← key? cs
    let rest ← mark? ']' rest
    let rest ← mark? ']' rest
    let rest ← lineEnd? rest
    some (← growth.openListed key, rest)
  | '[' :: cs => do
    let (key, rest) ← key? cs
    let rest ← mark? ']' rest
    let rest ← lineEnd? rest
    some (← growth.openTable key, rest)
  | cs => do
    let ((key, value), rest) ← pair? (value? size (depthLimit - 1)) cs
    let rest ← lineEnd? rest
    let (path, key) ← splitKey? key
    some (← growth.add path key value, rest)

def statements? (size : Nat) : Nat → Growth → List Char → Option Growth
  | 0, _, _ => none
  | lines + 1, growth, cs =>
    match skipBlanks cs with
    | [] => some growth
    | c :: rest =>
      if c = '#' ∨ c = '\n' ∨ c = '\r' then
        match lineEnd? (c :: rest) with
        | none => none
        | some after => statements? size lines growth after
      else
        match statement? size growth (c :: rest) with
        | none => none
        | some (growth, after) => statements? size lines growth after

/-- A byte order mark may come first. -/
def skipMark : List Char → List Char
  | '\uFEFF' :: cs => cs
  | cs => cs

def document? (text : String) : Option Entries := do
  let cs := skipMark text.toList
  let size := cs.length + 1
  let growth ← statements? size size .start cs
  let root ← growth.close
  datedEntries? root.toEntries

end DfsClient.Toml
