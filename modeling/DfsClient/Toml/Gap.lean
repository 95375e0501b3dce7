/-! What may stand between the parts of a document: blanks, line breaks and
comments. Control characters are allowed in none of them. -/

namespace DfsClient.Toml

def isBlank (c : Char) : Bool := c == ' ' || c == '\t'

def isCommentChar (c : Char) : Bool := c == '\t' || (decide (0x20 ≤ c.toNat) && c != '\x7f')

def skipBlanks (cs : List Char) : List Char := cs.dropWhile isBlank

/-- A line break is a line feed, with or without a carriage return before it. -/
def lineBreak? : List Char → Option (List Char)
  | '\n' :: cs => some cs
  | '\r' :: '\n' :: cs => some cs
  | _ => none

def skipComment : List Char → List Char
  | '#' :: cs => cs.dropWhile isCommentChar
  | cs => cs

/-- The rest of a line after its content: blanks, a comment, and the line break
or the end of the text. -/
def lineEnd? (cs : List Char) : Option (List Char) :=
  match skipComment (skipBlanks cs) with
  | [] => some []
  | rest => lineBreak? rest

/-- Skips blanks, line breaks and comments, as an array allows them between its
items. `commented` tells that a comment has begun. -/
def skipGap (commented : Bool) : List Char → List Char
  | [] => []
  | c :: cs =>
    if commented && isCommentChar c then skipGap true cs
    else if isBlank c || c == '\n' then skipGap false cs
    else if c == '\r' && cs.head? == some '\n' then skipGap false cs
    else if c == '#' then skipGap true cs
    else c :: cs

end DfsClient.Toml
