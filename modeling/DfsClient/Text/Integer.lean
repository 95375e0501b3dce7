/-! Decimal integers. A natural number is a non-empty run of ASCII digits; an
integer may carry one sign. Leading zeros are read, and there is no bound here:
whoever needs a width asks for it with `within?`. -/

namespace DfsClient.Text

def isDigit (c : Char) : Bool := decide ('0' ≤ c) && decide (c ≤ '9')

def natural? (cs : List Char) : Option Nat :=
  if cs ≠ [] ∧ cs.all isDigit = true then some (Nat.ofDigitChars 10 cs 0) else none

def integer? : List Char → Option Int
  | '+' :: cs => (natural? cs).map Int.ofNat
  | '-' :: cs => (natural? cs).map fun n => -(n : Int)
  | cs => (natural? cs).map Int.ofNat

def within? (low high : Int) (value : Int) : Option Int :=
  if low ≤ value ∧ value ≤ high then some value else none

def least64 : Int := -9223372036854775808
def greatest64 : Int := 9223372036854775807
def least32 : Int := -2147483648
def greatest32 : Int := 2147483647

def int64? (value : Int) : Option Int64 := (within? least64 greatest64 value).map Int64.ofInt

def int32? (value : Int) : Option Int32 := (within? least32 greatest32 value).map Int32.ofInt

def unsigned? : List Char → Option Nat
  | '+' :: cs => natural? cs
  | cs => natural? cs

theorem within?_eq_some_iff {low high value result : Int} :
    within? low high value = some result ↔ (low ≤ value ∧ value ≤ high) ∧ value = result := by
  unfold within?
  split
  next inside => simp [inside]
  next outside => simp [outside]

end DfsClient.Text
