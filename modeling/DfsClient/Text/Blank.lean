/-! Blank characters and trimming. A character is blank when it has Unicode's
`White_Space` property; the ranges are the property's whole list. -/

namespace DfsClient.Text

def blankRanges : List (Nat × Nat) :=
  [(0x09, 0x0D), (0x20, 0x20), (0x85, 0x85), (0xA0, 0xA0), (0x1680, 0x1680), (0x2000, 0x200A),
    (0x2028, 0x2029), (0x202F, 0x202F), (0x205F, 0x205F), (0x3000, 0x3000)]

def isBlank (c : Char) : Bool :=
  blankRanges.any fun range => decide (range.1 ≤ c.toNat) && decide (c.toNat ≤ range.2)

def trimBy (drops : Char → Bool) (cs : List Char) : List Char :=
  ((cs.dropWhile drops).reverse.dropWhile drops).reverse

def trim (text : String) : String := String.ofList (trimBy isBlank text.toList)

def allBlank (text : String) : Bool := text.toList.all isBlank

end DfsClient.Text
