import DfsClient.Url.Break
import DfsClient.Url.Percent

/-! Paths. Segments `.` and `..` are resolved while the path is read, also when
their points are encoded. A path is built backwards, so that its open end is at
hand. The path of a file may start with a drive letter, which no `..` takes away. -/

namespace DfsClient.Url

inductive Kind where
  | file
  | web
  | other
deriving DecidableEq, Repr

namespace Kind

def isSpecial : Kind → Bool
  | .other => false
  | _ => true

def ofScheme (scheme : String) : Kind :=
  if scheme = "file" then .file
  else if ["http", "https", "ws", "wss", "ftp"].contains scheme then .web
  else .other

end Kind

def isSlash (kind : Kind) (c : Char) : Bool := c == '/' || (kind.isSpecial && c == '\\')

/-- A segment in lower case with its encoded points written out. -/
def plainPoints : List Char → List Char
  | '%' :: '2' :: 'e' :: cs => '.' :: plainPoints cs
  | '%' :: '2' :: 'E' :: cs => '.' :: plainPoints cs
  | c :: cs => c :: plainPoints cs
  | [] => []

def isSinglePoint (segment : List Char) : Bool := plainPoints segment == ['.']
def isDoublePoint (segment : List Char) : Bool := plainPoints segment == ['.', '.']

def isLetter (c : Char) : Bool := c.isAlpha

def isDrive : List Char → Bool
  | [letter, ':'] => isLetter letter
  | _ => false

def isDriveLike : List Char → Bool
  | [letter, mark] => isLetter letter && (mark == ':' || mark == '|')
  | _ => false

def startsWithDrive : List Char → Bool
  | letter :: mark :: rest =>
    isDriveLike [letter, mark] && (rest.head?.map (· == '\\')).getD true
  | _ => false

/-- A path while it is read, its last character first. It is on a drive if a
drive letter came first in it. -/
structure Path where
  backwards : List Char := []
  onDrive : Bool := false
deriving DecidableEq, Repr

def Path.text (path : Path) : List Char := path.backwards.reverse

/-! The end of a path that is given backwards. -/

def endsInSlash (cs : List Char) : Bool := cs.head? == some '/'

def lastSegment (cs : List Char) : List Char := (cs.takeWhile (· != '/')).reverse

/-- The slash at the end of a path may go when another one stands before it
that is not the slash of a drive. -/
def mayDropSlash (cs : List Char) : Bool :=
  let before := cs.drop 1
  before.contains '/' && !startsWithDrive (lastSegment before)

/-- Goes up one segment; a drive letter stays. -/
def goUp (kind : Kind) (cs : List Char) : List Char :=
  let cs := if endsInSlash cs && mayDropSlash cs then cs.drop 1 else cs
  if kind = .file ∧ isDrive (lastSegment cs) = true then cs else cs.dropWhile (· != '/')

def slashUnless (present : Bool) (cs : List Char) : List Char := if present then cs else '/' :: cs

/-- Adds one segment to a path, with a slash after it unless it is the last. -/
def Path.add (kind : Kind) (path : Path) (segment : List Char) (slash : Bool) : Path :=
  if isDoublePoint segment then
    let cs := goUp kind path.backwards
    { path with backwards := slashUnless (!slash || endsInSlash cs) cs }
  else if isSinglePoint segment then
    { path with backwards := slashUnless (endsInSlash path.backwards) path.backwards }
  else
    match kind, segment with
    | .file, [letter, _] =>
      if path.backwards = ['/'] ∧ isDriveLike segment = true then
        { backwards := slashUnless (!slash) [':', letter, '/'], onDrive := true }
      else { path with backwards := slashUnless (!slash) (segment.reverse ++ path.backwards) }
    | _, _ => { path with backwards := slashUnless (!slash) (segment.reverse ++ path.backwards) }

def goesOn (kind : Kind) (cs : List Char) : Bool :=
  match cs.find? fun c => !isBreak c with
  | some c => !isSlash kind c
  | none => false

/-- The path of a text that ends before its query, onto a path begun. A break
right after the drive letter of a file puts a slash there; what was the drive's
segment then goes on, so that it is no drive letter any more. -/
def Path.read (kind : Kind) (path : Path) : List Char → List Char → Path
  | segment, [] => path.add kind (encode pathSet segment.reverse) false
  | segment, c :: cs =>
    if isBreak c then
      match segment with
      | [':', letter] =>
        if kind = .file ∧ path.backwards = ['/'] ∧ isLetter letter = true
            ∧ goesOn kind cs = true then
          Path.read kind { path with backwards := [letter, '/'] } ['/', ':'] cs
        else Path.read kind path segment cs
      | _ => Path.read kind path segment cs
    else if isSlash kind c then
      Path.read kind (path.add kind (encode pathSet segment.reverse) true) [] cs
    else Path.read kind path (c :: segment) cs

/-- Paths of files start with exactly one slash. -/
def tidy (path : List Char) : List Char := '/' :: path.dropWhile (· == '/')

end DfsClient.Url
