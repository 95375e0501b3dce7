import DfsClient.Text.Integer

/-! Dates and times of the Gregorian calendar, as documents write them. A
fraction of a second keeps nine digits; an offset of zero has a plus sign. -/

namespace DfsClient.Toml

structure Date where
  year : Nat
  month : Nat
  day : Nat
deriving DecidableEq, Repr

structure Time where
  hour : Nat
  minute : Nat
  second : Nat
  nanosecond : Nat
deriving DecidableEq, Repr

inductive Offset where
  | utc
  | minutes (east : Int)
deriving DecidableEq, Repr

/-- A date, a time of day, or both; only both together carry an offset. -/
structure Datetime where
  date : Option Date
  time : Option Time
  offset : Option Offset
deriving DecidableEq, Repr

def isLeapYear (year : Nat) : Bool := year % 4 == 0 && (year % 100 != 0 || year % 400 == 0)

def daysIn (year month : Nat) : Nat :=
  if month = 2 then if isLeapYear year then 29 else 28
  else if month = 4 ∨ month = 6 ∨ month = 9 ∨ month = 11 then 30 else 31

def padded (width n : Nat) : String :=
  let digits := Nat.toDigits 10 n
  String.ofList (List.replicate (width - digits.length) '0' ++ digits)

def Date.text (date : Date) : String :=
  padded 4 date.year ++ "-" ++ padded 2 date.month ++ "-" ++ padded 2 date.day

def Time.fraction (time : Time) : String :=
  if time.nanosecond = 0 then ""
  else
    let digits := (padded 9 time.nanosecond).toList
    "." ++ String.ofList (digits.reverse.dropWhile (· == '0')).reverse

def Time.text (time : Time) : String :=
  padded 2 time.hour ++ ":" ++ padded 2 time.minute ++ ":" ++ padded 2 time.second ++ time.fraction

def Offset.text : Offset → String
  | .utc => "Z"
  | .minutes east =>
    (if east < 0 then "-" else "+") ++ padded 2 (east.natAbs / 60) ++ ":" ++ padded 2 (east.natAbs % 60)

def Datetime.text (datetime : Datetime) : String :=
  let date := (datetime.date.map Date.text).getD ""
  let mark := if datetime.date.isSome && datetime.time.isSome then "T" else ""
  date ++ mark ++ (datetime.time.map Time.text).getD "" ++ (datetime.offset.map Offset.text).getD ""

def fixed? (width : Nat) (cs : List Char) : Option (Nat × List Char) :=
  let digits := cs.take width
  if digits.length = width ∧ digits.all Text.isDigit = true then
    some (Nat.ofDigitChars 10 digits 0, cs.drop width)
  else none

def bounded? (width low high : Nat) (cs : List Char) : Option (Nat × List Char) := do
  let (n, rest) ← fixed? width cs
  if low ≤ n ∧ n ≤ high then some (n, rest) else none

def mark? (c : Char) : List Char → Option (List Char)
  | [] => none
  | d :: cs => if c = d then some cs else none

def Date.read? (cs : List Char) : Option (Date × List Char) := do
  let (year, cs) ← fixed? 4 cs
  let cs ← mark? '-' cs
  let (month, cs) ← bounded? 2 1 12 cs
  let cs ← mark? '-' cs
  let (day, cs) ← bounded? 2 1 (daysIn year month) cs
  some (⟨year, month, day⟩, cs)

/-- Nine digits of a fraction as nanoseconds; further digits are dropped. -/
def nanoseconds (digits : List Char) : Nat :=
  let kept := digits.take 9
  Nat.ofDigitChars 10 kept 0 * Nat.pow 10 (9 - kept.length)

def readFraction (cs : List Char) : Nat × List Char :=
  match cs with
  | '.' :: rest =>
    let digits := rest.takeWhile Text.isDigit
    if digits = [] then (0, cs) else (nanoseconds digits, rest.dropWhile Text.isDigit)
  | _ => (0, cs)

def Time.read? (cs : List Char) : Option (Time × List Char) := do
  let (hour, cs) ← bounded? 2 0 23 cs
  let cs ← mark? ':' cs
  let (minute, cs) ← bounded? 2 0 59 cs
  let cs ← mark? ':' cs
  let (second, cs) ← bounded? 2 0 60 cs
  let (nanosecond, cs) := readFraction cs
  some (⟨hour, minute, second, nanosecond⟩, cs)

def Offset.clock? (sign : Int) (cs : List Char) : Option (Offset × List Char) := do
  let (hour, cs) ← bounded? 2 0 23 cs
  let cs ← mark? ':' cs
  let (minute, cs) ← bounded? 2 0 59 cs
  some (.minutes (sign * (hour * 60 + minute)), cs)

def Offset.read? : List Char → Option (Offset × List Char)
  | 'Z' :: cs => some (.utc, cs)
  | 'z' :: cs => some (.utc, cs)
  | '+' :: cs => Offset.clock? 1 cs
  | '-' :: cs => Offset.clock? (-1) cs
  | _ => none

def Datetime.withTime? (date : Date) : List Char → Option (Datetime × List Char)
  | c :: cs =>
    if c = 'T' ∨ c = 't' ∨ c = ' ' then
      match Time.read? cs with
      | none => none
      | some (time, cs) =>
        match Offset.read? cs with
        | some (offset, cs) => some (⟨date, time, offset⟩, cs)
        | none => some (⟨date, time, none⟩, cs)
    else none
  | [] => none

def Datetime.read? (cs : List Char) : Option (Datetime × List Char) :=
  match Date.read? cs with
  | some (date, rest) =>
    match Datetime.withTime? date rest with
    | some result => some result
    | none => some (⟨date, none, none⟩, rest)
  | none =>
    match Time.read? cs with
    | some (time, rest) => some (⟨none, time, none⟩, rest)
    | none => none

def Datetime.ofText? (text : String) : Option Datetime :=
  match Datetime.read? text.toList with
  | some (datetime, []) => some datetime
  | _ => none

end DfsClient.Toml
