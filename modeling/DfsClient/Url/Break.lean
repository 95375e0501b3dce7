/-! Breaks: tabs and line ends, which count for nothing inside a URL. Only the
path of a file takes notice of one, where it follows a drive letter. -/

namespace DfsClient.Url

def isBreak (c : Char) : Bool := c == '\t' || c == '\n' || c == '\r'

def visible (cs : List Char) : List Char := cs.filter fun c => !isBreak c

/-- What is left after the first so many characters that count. -/
def dropVisible : Nat → List Char → List Char
  | 0, cs => cs
  | _, [] => []
  | n + 1, c :: cs => if isBreak c then dropVisible (n + 1) cs else dropVisible n cs

end DfsClient.Url
