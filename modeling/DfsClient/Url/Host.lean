import DfsClient.Url.Percent
import DfsClient.Url.Error

/-! Hosts. Schemes of the web read domain names and numeric addresses; any other
scheme keeps the host as it is written. A bracketed address is read by both. -/

namespace DfsClient.Url

def splitAt (mark : Char) : List Char → List (List Char)
  | [] => [[]]
  | c :: cs =>
    if c = mark then [] :: splitAt mark cs
    else
      match splitAt mark cs with
      | [] => [[c]]
      | piece :: pieces => (c :: piece) :: pieces

def isDecimalDigit (c : Char) : Bool := decide ('0' ≤ c) && decide (c ≤ '9')
def isOctalDigit (c : Char) : Bool := decide ('0' ≤ c) && decide (c ≤ '7')
def isHexDigit (c : Char) : Bool := (hexDigit? c).isSome

def ofDigits (base : Nat) (cs : List Char) : Nat :=
  cs.foldl (fun n c => n * base + (hexDigit? c).getD 0) 0

/-- A part of a numeric address: hexadecimal after `0x`, octal after another
leading zero, decimal otherwise. -/
def ipv4Number? : List Char → Option Nat
  | [] => none
  | '0' :: 'x' :: cs => if cs.all isHexDigit then some (ofDigits 16 cs) else none
  | '0' :: 'X' :: cs => if cs.all isHexDigit then some (ofDigits 16 cs) else none
  | ['0'] => some 0
  | '0' :: cs => if cs.all isOctalDigit then some (ofDigits 8 cs) else none
  | cs => if cs.all isDecimalDigit then some (ofDigits 10 cs) else none

/-- Whether the last part of a domain name, a closing point aside, is a number. -/
def endsInNumber (cs : List Char) : Bool :=
  let parts := (splitAt '.' cs).reverse
  let last? := match parts with
    | [] :: before :: _ => some before
    | [[]] => none
    | last :: _ => some last
    | [] => none
  match last? with
  | none => false
  | some last => (last ≠ [] && last.all isDecimalDigit) || (ipv4Number? last).isSome

/-- A numeric address of up to four parts, of which the last fills what the
others leave. -/
def ipv4? (cs : List Char) : Except Error Nat :=
  let parts := splitAt '.' cs
  let parts := if parts.getLast? = some [] then parts.dropLast else parts
  match parts.mapM ipv4Number? with
  | none => .error .badIpv4
  | some numbers =>
    match numbers.getLast? with
    | none => .error .badIpv4
    | some last =>
      let leading := numbers.dropLast
      if 4 < numbers.length ∨ leading.any (fun n => decide (255 < n)) = true
          ∨ Nat.pow 256 (4 - leading.length) ≤ last then .error .badIpv4
      else
        .ok (leading.zipIdx.foldl (fun sum (n, place) => sum + n * Nat.pow 256 (3 - place)) last)

def ipv4Text (address : Nat) : List Char :=
  let part (place : Nat) := Nat.toDigits 10 (address / Nat.pow 256 place % 256)
  part 3 ++ '.' :: part 2 ++ '.' :: part 1 ++ '.' :: part 0

structure Pieces where
  pieces : List Nat := []
  gap : Option Nat := none

/-- A byte of the numeric tail: digits without leading zero, at most 255. -/
def tailByte? (cs : List Char) : Option (Nat × List Char) :=
  let digits := cs.takeWhile isDecimalDigit
  let n := ofDigits 10 digits
  if digits = [] ∨ 255 < n ∨ (digits.head? = some '0' ∧ digits.length ≠ 1) then none
  else some (n, cs.dropWhile isDecimalDigit)

def tail? (cs : List Char) : Option (List Nat) := do
  let (a, cs) ← tailByte? cs
  let cs ← dot? cs
  let (b, cs) ← tailByte? cs
  let cs ← dot? cs
  let (c, cs) ← tailByte? cs
  let cs ← dot? cs
  let (d, cs) ← tailByte? cs
  if cs = [] then some [a * 256 + b, c * 256 + d] else none
where
  dot? : List Char → Option (List Char)
    | '.' :: cs => some cs
    | _ => none

def pieces? (read : Pieces) (cs : List Char) : Option Pieces :=
  match cs with
  | [] => some read
  | c :: rest =>
    if read.pieces.length = 8 then none
    else if c = ':' then
      if read.gap.isSome then none
      else pieces? ⟨read.pieces ++ [0], some (read.pieces.length + 1)⟩ rest
    else
      let digits := (c :: rest).take 4 |>.takeWhile isHexDigit
      let piece := ofDigits 16 digits
      match _found : (c :: rest).drop digits.length with
      | [] => some { read with pieces := read.pieces ++ [piece] }
      | '.' :: _ =>
        if digits = [] ∨ 6 < read.pieces.length then none
        else (tail? (c :: rest)).map fun tail => { read with pieces := read.pieces ++ tail }
      | ':' :: more =>
        if more = [] then none else pieces? { read with pieces := read.pieces ++ [piece] } more
      | _ => none
termination_by cs.length
decreasing_by
  · simp
  · have := congrArg List.length _found
    simp only [List.length_drop, List.length_cons] at this ⊢
    omega

/-- A bracketed address: eight pieces, of which one run of zeros may be left out. -/
def ipv6? (cs : List Char) : Except Error (List Nat) :=
  let read := match cs with
    | ':' :: ':' :: rest => pieces? ⟨[0], some 1⟩ rest
    | ':' :: _ => none
    | [] => none
    | [_] => none
    | cs => pieces? {} cs
  match read with
  | none => .error .badIpv6
  | some ⟨pieces, some gap⟩ =>
    .ok (pieces.take gap ++ List.replicate (8 - pieces.length) 0 ++ pieces.drop gap)
  | some ⟨pieces, none⟩ => if pieces.length = 8 then .ok pieces else .error .badIpv6

def longestZeros (pieces : List Nat) : Nat × Nat :=
  let runs := (List.range pieces.length).map fun start =>
    (start, ((pieces.drop start).takeWhile (· == 0)).length)
  runs.foldl (fun best run => if best.2 < run.2 then run else best) (0, 0)

def joinPieces (pieces : List Nat) : List Char :=
  [':'].intercalate (pieces.map (Nat.toDigits 16))

/-- A run of two zeros or more is left out. -/
def ipv6Text (pieces : List Nat) : List Char :=
  let (start, length) := longestZeros pieces
  '[' ::
    (if length < 2 then joinPieces pieces
      else joinPieces (pieces.take start) ++ [':', ':'] ++ joinPieces (pieces.drop (start + length)))
    ++ [']']

def bracketed? (cs : List Char) : Option (Except Error (List Char)) :=
  match cs with
  | '[' :: rest =>
    some (if cs.getLast? = some ']' then (ipv6? rest.dropLast).map ipv6Text else .error .badIpv6)
  | _ => none

def forbiddenHostChars : List Char :=
  ['\x00', '\t', '\n', '\r', ' ', '#', '/', ':', '<', '>', '?', '@', '[', '\\', ']', '^', '|']

def opaqueHost (cs : List Char) : Except Error (List Char) :=
  match bracketed? cs with
  | some result => result
  | none =>
    if cs.any forbiddenHostChars.contains then .error .badDomainCharacter
    else .ok (encode isControl cs)

def isForbiddenDomainChar (c : Char) : Bool :=
  isControl c || forbiddenHostChars.contains c || c == '%'

/-- The host of a scheme of the web: decoded, in lower case, numeric addresses
in their usual form. Domain names are read in ASCII. -/
def domainHost (cs : List Char) : Except Error (List Char) :=
  match bracketed? cs with
  | some result => result
  | none =>
    match Text.decode? (decodeBytes cs) with
    | none => .error .badDomainName
    | some name =>
      let name := name.toList.map Char.toLower
      if name.any isForbiddenDomainChar then .error .badDomainName
      else if name = [] then .error .emptyHost
      else if endsInNumber name then (ipv4? name).map ipv4Text
      else .ok name

end DfsClient.Url
