import DfsClient.Decimal.Binary64

/-! The shortest decimal of a floating point number: of all decimals that read
back as the number, those with the fewest digits, and of these the nearest. Of
two equally near ones it is the larger. -/

namespace DfsClient.Decimal

/-- The decimal `digits * 10 ^ exponent`. -/
structure Shortest where
  digits : Nat
  exponent : Int
deriving DecidableEq, Repr

/-- The decimals that read back as a finite number, in quarters of its unit
`2 ^ exponent`. The ends belong to the range when the mantissa is even. -/
structure Range where
  low : Nat
  value : Nat
  high : Nat
  closed : Bool
  exponent : Int

/-- Below a power of two the next smaller number is only half a unit away. -/
def Range.of (mantissa : Nat) (exponent : Int) : Range where
  low := 4 * mantissa -
    (if mantissa = leastNormal ∧ Binary64.leastExponent < exponent then 1 else 2)
  value := 4 * mantissa
  high := 4 * mantissa + 2
  closed := mantissa % 2 == 0
  exponent := exponent - 2

def Range.holds (range : Range) (digits : Nat) (grid : Int) : Bool :=
  let (top, bottom) := scaled 10 digits 1 grid
  let (unit, scale) := scaled 2 1 1 range.exponent
  let point := top * scale
  let low := range.low * unit * bottom
  let high := range.high * unit * bottom
  if range.closed then decide (low ≤ point) && decide (point ≤ high)
  else decide (low < point) && decide (point < high)

/-- The largest `e` with `10 ^ e` at most the quotient, for positive parts. -/
def decimalExponent (numerator denominator : Nat) : Int :=
  let guess : Int :=
    ((Nat.toDigits 10 numerator).length : Int) - (Nat.toDigits 10 denominator).length
  let (unit, whole) := scaled 10 denominator numerator guess
  if unit ≤ whole then guess else guess - 1

/-- The two neighbours of the value on the grid of `10 ^ grid`: the lower one,
and twice the distance to it against one step of the grid. -/
def Range.neighbour (range : Range) (grid : Int) : Nat × Ordering :=
  let (top, bottom) := scaled 2 range.value 1 range.exponent
  let (top, bottom) := scaled 10 top bottom (-grid)
  (top / bottom, compare (2 * (top % bottom)) bottom)

/-- The nearer of the two neighbours that lies in the range, the upper one at a tie. -/
def Range.onGrid? (range : Range) (grid : Int) : Option Nat :=
  let (lower, side) := range.neighbour grid
  match range.holds lower grid, range.holds (lower + 1) grid with
  | true, true => some (if side = .lt then lower else lower + 1)
  | true, false => some lower
  | false, true => some (lower + 1)
  | false, false => none

/-- Tries ever finer grids, at most `left` of them. -/
def Range.search (range : Range) : Nat → Int → Shortest
  | 0, grid => ⟨(range.neighbour grid).1, grid⟩
  | left + 1, grid =>
    match range.onGrid? grid with
    | some digits => ⟨digits, grid⟩
    | none => range.search left (grid - 1)

/-- The shortest decimal of a positive finite number. Seventeen digits always suffice. -/
def shortest (mantissa : Nat) (exponent : Int) : Shortest :=
  let range := Range.of mantissa exponent
  let (top, bottom) := scaled 2 range.value 1 range.exponent
  range.search 17 (decimalExponent top bottom)

def stripZeros : List Char → Int → List Char × Int
  | digits, exponent =>
    let kept := (digits.reverse.dropWhile (· == '0')).reverse
    (kept, exponent + (digits.length - kept.length : Nat))

/-- A decimal without exponent: zeros fill the places up to the point. -/
def positional (decimal : Shortest) : String :=
  let (digits, exponent) := stripZeros (Nat.toDigits 10 decimal.digits) decimal.exponent
  String.ofList <|
    if 0 ≤ exponent then digits ++ List.replicate exponent.toNat '0'
    else
      let places := (-exponent).toNat
      if places < digits.length then
        digits.take (digits.length - places) ++ '.' :: digits.drop (digits.length - places)
      else
        '0' :: '.' :: List.replicate (places - digits.length) '0' ++ digits

structure Format where
  /-- What follows a number without fraction. -/
  whole : String
  nan : String
  infinity : String := "inf"

def Binary64.isWhole : Binary64 → Bool
  | .finite _ mantissa exponent =>
    decide (0 ≤ exponent) || mantissa % Nat.pow 2 (-exponent).toNat == 0
  | _ => false

def Format.write (format : Format) (number : Binary64) : String :=
  let sign := if number.isNegative then "-" else ""
  match number with
  | .nan => format.nan
  | .infinite _ => sign ++ format.infinity
  | .finite _ mantissa exponent =>
    let body := if mantissa = 0 then "0" else positional (shortest mantissa exponent)
    sign ++ body ++ (if number.isWhole then format.whole else "")

end DfsClient.Decimal
