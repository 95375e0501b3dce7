import DfsClient.Text.Utf8

/-! Percent encoding. Every part of a URL has its own set of ASCII characters
that are encoded; characters beyond ASCII are encoded everywhere, byte by byte. -/

namespace DfsClient.Url

def isControl (c : Char) : Bool := decide (c.toNat < 0x20) || c == '\x7f'

def fragmentSet (c : Char) : Bool := isControl c || [' ', '"', '<', '>', '\x60'].contains c

def pathSet (c : Char) : Bool := fragmentSet c || ['#', '?', '\x7b', '\x7d'].contains c

def userinfoSet (c : Char) : Bool :=
  pathSet c || ['/', ':', ';', '=', '@', '[', '\\', ']', '^', '|'].contains c

def querySet (c : Char) : Bool := isControl c || [' ', '"', '#', '<', '>'].contains c

/-- Schemes of the web also encode the apostrophe in queries. -/
def specialQuerySet (c : Char) : Bool := querySet c || c == '\''

def byteDigits (b : UInt8) : List Char :=
  let digits := (Nat.toDigits 16 b.toNat).map Char.toUpper
  '%' :: List.replicate (2 - digits.length) '0' ++ digits

def encodeChar (set : Char → Bool) (c : Char) : List Char :=
  if set c || decide (0x80 ≤ c.toNat) then (String.utf8EncodeChar c).flatMap byteDigits else [c]

def encode (set : Char → Bool) (cs : List Char) : List Char := cs.flatMap (encodeChar set)

def hexDigit? (c : Char) : Option Nat :=
  if '0' ≤ c ∧ c ≤ '9' then some (c.toNat - '0'.toNat)
  else if 'a' ≤ c ∧ c ≤ 'f' then some (c.toNat - 'a'.toNat + 10)
  else if 'A' ≤ c ∧ c ≤ 'F' then some (c.toNat - 'A'.toNat + 10)
  else none

/-- The bytes that an encoded text stands for. A percent sign without two
digits after it stands for itself. -/
def decodeBytes : List Char → List UInt8
  | '%' :: high :: low :: cs =>
    match hexDigit? high, hexDigit? low with
    | some h, some l => UInt8.ofNat (h * 16 + l) :: decodeBytes cs
    | _, _ => UInt8.ofNat '%'.toNat :: decodeBytes (high :: low :: cs)
  | c :: cs => String.utf8EncodeChar c ++ decodeBytes cs
  | [] => []

end DfsClient.Url
