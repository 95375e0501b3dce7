/-! UTF-8. Bytes are read by one machine that keeps at most one unfinished
character; each maximal ill-formed piece yields one gap. Strict reading refuses
any gap, lenient reading writes the replacement character for it. -/

namespace DfsClient.Text

/-- A character that still needs `missing + 1` bytes, the next one in a range. -/
structure Unfinished where
  missing : Nat
  low : UInt8
  high : UInt8
  value : Nat

inductive Lead where
  | complete (c : Char)
  | unfinished (rest : Unfinished)
  | stray

/-- What a byte begins. The ranges of the second byte exclude overlong forms,
surrogates and values above the last code point. -/
def lead (b : UInt8) : Lead :=
  let n := b.toNat
  if n < 0x80 then .complete (Char.ofNat n)
  else if n < 0xC2 then .stray
  else if n < 0xE0 then .unfinished ⟨0, 0x80, 0xBF, n - 0xC0⟩
  else if n < 0xF0 then
    .unfinished ⟨1, if n = 0xE0 then 0xA0 else 0x80, if n = 0xED then 0x9F else 0xBF, n - 0xE0⟩
  else if n < 0xF5 then
    .unfinished ⟨2, if n = 0xF0 then 0x90 else 0x80, if n = 0xF4 then 0x8F else 0xBF, n - 0xF0⟩
  else .stray

/-- The characters that bytes spell, with `none` for each ill-formed piece. -/
def spelled : Option Unfinished → List UInt8 → List (Option Char)
  | none, [] => []
  | some _, [] => [none]
  | none, b :: bs => begin b bs
  | some u, b :: bs =>
    if u.low ≤ b ∧ b ≤ u.high then
      let value := u.value * 64 + (b.toNat - 0x80)
      match u.missing with
      | 0 => some (Char.ofNat value) :: spelled none bs
      | missing + 1 => spelled (some ⟨missing, 0x80, 0xBF, value⟩) bs
    else
      none :: begin b bs
where
  begin (b : UInt8) (bs : List UInt8) : List (Option Char) :=
    match lead b with
    | .complete c => some c :: spelled none bs
    | .unfinished u => spelled (some u) bs
    | .stray => none :: spelled none bs

def decode? (bytes : List UInt8) : Option String :=
  let cs := spelled none bytes
  if cs.all Option.isSome then some (String.ofList (cs.filterMap id)) else none

def decodeLenient (bytes : List UInt8) : String :=
  String.ofList ((spelled none bytes).map fun c => c.getD '\uFFFD')

def encode (text : String) : List UInt8 := text.toList.flatMap String.utf8EncodeChar

def beforeNul (bytes : List UInt8) : List UInt8 := bytes.takeWhile (· != 0)

def cutAtNul (text : String) : String := String.ofList (text.toList.takeWhile (· != '\x00'))

end DfsClient.Text
