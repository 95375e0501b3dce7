import DfsClient.Toml.Gap
import DfsClient.Text.Integer

/-! Texts in quotes. Basic texts know escapes, literal ones do not; the long
form of either spans lines and ends at three quotes, of which up to two more may
belong to the text. Each form is read by one pass over the characters. -/

namespace DfsClient.Toml

def hexDigit? (c : Char) : Option Nat :=
  if '0' ≤ c ∧ c ≤ '9' then some (c.toNat - '0'.toNat)
  else if 'a' ≤ c ∧ c ≤ 'f' then some (c.toNat - 'a'.toNat + 10)
  else if 'A' ≤ c ∧ c ≤ 'F' then some (c.toNat - 'A'.toNat + 10)
  else none

/-- A code point that is a character: in range and no surrogate. -/
def scalar? (n : Nat) : Option Char :=
  if n < 0xD800 ∨ (0xDFFF < n ∧ n < 0x110000) then some (Char.ofNat n) else none

def letterEscape? (c : Char) : Option Char :=
  if c = 'b' then some '\x08'
  else if c = 't' then some '\t'
  else if c = 'n' then some '\n'
  else if c = 'f' then some '\x0c'
  else if c = 'r' then some '\r'
  else if c = '"' then some '"'
  else if c = '\\' then some '\\'
  else none

def isBasicChar (c : Char) : Bool := isCommentChar c && c != '"' && c != '\\'

def isLiteralChar (c : Char) : Bool := isCommentChar c && c != '\''

/-- Where a basic text stands: between characters, after a backslash, before
the last `left + 1` digits of a code point, or in a fold, which drops a line
break and the blanks around it. -/
inductive Place where
  | between
  | escaped
  | digits (left : Nat) (value : Nat)
  | fold (broken : Bool)
deriving DecidableEq, Repr

abbrev Text? := Option (List Char × List Char)

def push (c : Char) (rest : Text?) : Text? := rest.map fun text => (c :: text.1, text.2)

/-- After a backslash: a letter escape or the number of digits to come. -/
def afterBackslash (c : Char) : Option (Char ⊕ Place) :=
  if c = 'u' then some (.inr (.digits 3 0))
  else if c = 'U' then some (.inr (.digits 7 0))
  else (letterEscape? c).map .inl

def afterDigit (left value : Nat) (c : Char) : Option (Char ⊕ Place) :=
  match hexDigit? c with
  | none => none
  | some digit =>
    let value := value * 16 + digit
    match left with
    | 0 => (scalar? value).map .inl
    | left + 1 => some (.inr (.digits left value))

def basicText : Place → List Char → Text?
  | _, [] => none
  | .between, c :: cs =>
    if c = '"' then some ([], cs)
    else if c = '\\' then basicText .escaped cs
    else if isBasicChar c then push c (basicText .between cs)
    else none
  | .escaped, c :: cs =>
    match afterBackslash c with
    | some (.inl d) => push d (basicText .between cs)
    | some (.inr place) => basicText place cs
    | none => none
  | .digits left value, c :: cs =>
    match afterDigit left value c with
    | some (.inl d) => push d (basicText .between cs)
    | some (.inr place) => basicText place cs
    | none => none
  | .fold _, _ :: _ => none

def literalText : List Char → Text?
  | [] => none
  | c :: cs =>
    if c = '\'' then some ([], cs)
    else if isLiteralChar c then push c (literalText cs)
    else none

/-- What follows the first of three closing quotes or more: up to two quotes of
the text, then the rest. -/
def closing? (quote : Char) : List Char → Text?
  | c :: d :: cs =>
    if c = quote ∧ d = quote then
      match cs with
      | e :: f :: rest =>
        if e = quote then
          if f = quote then some ([quote, quote], rest) else some ([quote], f :: rest)
        else some ([], cs)
      | [e] => if e = quote then some ([quote], []) else some ([], cs)
      | [] => some ([], [])
    else none
  | _ => none

/-- A fold that has met its line break ends at the first other character. -/
def Place.settle (place : Place) (c : Char) : Place :=
  match place with
  | .fold true => if isBlank c || c == '\n' || c == '\r' then place else .between
  | _ => place

def longBasicText (place : Place) : List Char → Text?
  | [] => none
  | c :: cs =>
    match place.settle c with
    | .between =>
      if c = '"' then
        match closing? '"' cs with
        | some result => some result
        | none => push c (longBasicText .between cs)
      else if c = '\\' then longBasicText .escaped cs
      else if c = '\r' then if cs.head? = some '\n' then longBasicText .between cs else none
      else if isBasicChar c || c == '\n' then push c (longBasicText .between cs)
      else none
    | .escaped =>
      if isBlank c then longBasicText (.fold false) cs
      else if c = '\n' then longBasicText (.fold true) cs
      else if c = '\r' then if cs.head? = some '\n' then longBasicText (.fold false) cs else none
      else
        match afterBackslash c with
        | some (.inl d) => push d (longBasicText .between cs)
        | some (.inr place) => longBasicText place cs
        | none => none
    | .digits left value =>
      match afterDigit left value c with
      | some (.inl d) => push d (longBasicText .between cs)
      | some (.inr place) => longBasicText place cs
      | none => none
    | .fold broken =>
      if isBlank c then longBasicText (.fold broken) cs
      else if c = '\n' then longBasicText (.fold true) cs
      else if c = '\r' then if cs.head? = some '\n' then longBasicText (.fold broken) cs else none
      else none

def longLiteralText : List Char → Text?
  | [] => none
  | c :: cs =>
    if c = '\'' then
      match closing? '\'' cs with
      | some result => some result
      | none => push c (longLiteralText cs)
    else if c = '\r' then if cs.head? = some '\n' then longLiteralText cs else none
    else if isLiteralChar c || c == '\n' then push c (longLiteralText cs)
    else none

/-- A line break right after three opening quotes is not part of the text. -/
def afterOpening (cs : List Char) : List Char := (lineBreak? cs).getD cs

def shortText? : List Char → Text?
  | '"' :: cs => basicText .between cs
  | '\'' :: cs => literalText cs
  | _ => none

def quotedText? : List Char → Text?
  | '"' :: '"' :: '"' :: cs => longBasicText .between (afterOpening cs)
  | '\'' :: '\'' :: '\'' :: cs => longLiteralText (afterOpening cs)
  | cs => shortText? cs

end DfsClient.Toml
