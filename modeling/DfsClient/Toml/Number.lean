import DfsClient.Toml.Value
import DfsClient.Toml.Quoted

/-! Numbers. Underscores may stand between digits; a decimal number has no
leading zero; integers keep to 64 bits. -/

namespace DfsClient.Toml

/-- A run of digits with single underscores between them, without the underscores. -/
def digitRun (isDigit : Char → Bool) : List Char → List Char × List Char
  | [] => ([], [])
  | c :: cs =>
    if isDigit c then
      let (digits, rest) := digitRun isDigit cs
      (c :: digits, rest)
    else if c = '_' && (cs.head?.map isDigit).getD false then digitRun isDigit cs
    else ([], c :: cs)

def digits? (isDigit : Char → Bool) (cs : List Char) : Option (List Char × List Char) :=
  if (cs.head?.map isDigit).getD false then some (digitRun isDigit cs) else none

def sign : List Char → Bool × List Char
  | '-' :: cs => (true, cs)
  | '+' :: cs => (false, cs)
  | cs => (false, cs)

/-- The whole part of a decimal number: a lone zero, or digits that start with another one. -/
def wholePart? : List Char → Option (List Char × List Char)
  | '0' :: cs => some (['0'], cs)
  | cs => digits? Text.isDigit cs

def ofDigits (base : Nat) (digits : List Char) : Nat :=
  digits.foldl (fun n c => base * n + (hexDigit? c).getD 0) 0

def isHexDigit (c : Char) : Bool := (hexDigit? c).isSome
def isOctalDigit (c : Char) : Bool := decide ('0' ≤ c) && decide (c ≤ '7')
def isBinaryDigit (c : Char) : Bool := c == '0' || c == '1'

def based? (base : Nat) (isDigit : Char → Bool) (cs : List Char) : Option (Value × List Char) := do
  let (digits, rest) ← digits? isDigit cs
  let n ← Text.int64? (ofDigits base digits)
  some (.integer n, rest)

def integerValue? : List Char → Option (Value × List Char)
  | '0' :: 'x' :: cs => based? 16 isHexDigit cs
  | '0' :: 'o' :: cs => based? 8 isOctalDigit cs
  | '0' :: 'b' :: cs => based? 2 isBinaryDigit cs
  | cs => do
    let (negative, cs) := sign cs
    let (digits, rest) ← wholePart? cs
    let magnitude : Int := ofDigits 10 digits
    let n ← Text.int64? (if negative then -magnitude else magnitude)
    some (.integer n, rest)

def fractionPart? : List Char → Option (List Char × List Char)
  | '.' :: cs => digits? Text.isDigit cs
  | _ => none

/-- The power of ten after `e`. -/
def exponentPart? : List Char → Option (Int × List Char)
  | c :: cs =>
    if c = 'e' ∨ c = 'E' then do
      let (negative, cs) := sign cs
      let (digits, rest) ← digits? Text.isDigit cs
      let magnitude : Int := ofDigits 10 digits
      some (if negative then -magnitude else magnitude, rest)
    else none
  | [] => none

/-- A fraction, an exponent or both, in this order; at least one makes a number a float. -/
def floatTail? (cs : List Char) : Option (List Char × Int × List Char) :=
  match fractionPart? cs with
  | some (fraction, rest) =>
    match exponentPart? rest with
    | some (exponent, rest) => some (fraction, exponent, rest)
    | none => some (fraction, 0, rest)
  | none => (exponentPart? cs).map fun (exponent, rest) => ([], exponent, rest)

def namedFloat? (negative : Bool) : List Char → Option (Decimal.Binary64 × List Char)
  | 'i' :: 'n' :: 'f' :: cs => some (.infinite negative, cs)
  | 'n' :: 'a' :: 'n' :: cs => some (.nan, cs)
  | _ => none

/-- A number that is too large for a float is refused; below zero it is minus infinity. -/
def floatValue? (cs : List Char) : Option (Value × List Char) :=
  let (negative, cs) := sign cs
  match wholePart? cs with
  | some (whole, rest) => do
    let (fraction, exponent, rest) ← floatTail? rest
    let number :=
      Decimal.Binary64.ofDecimal negative (ofDigits 10 (whole ++ fraction)) (exponent - fraction.length)
    if number = .infinite false then none else some (.float number, rest)
  | none => (namedFloat? negative cs).map fun (number, rest) => (.float number, rest)

/-- A date, a float or an integer, in this order of preference. -/
def numberValue? (cs : List Char) : Option (Value × List Char) :=
  match Datetime.read? cs with
  | some (datetime, rest) => some (.datetime datetime, rest)
  | none =>
    match floatValue? cs with
    | some result => some result
    | none => integerValue? cs

end DfsClient.Toml
