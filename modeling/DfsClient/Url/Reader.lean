import DfsClient.Text.Blank
import DfsClient.Url.Basic
import DfsClient.Url.Path

/-! Reading URLs: the scheme, then what its kind allows after it. Blanks around
a URL do not belong to it. -/

namespace DfsClient.Url

def isEdge (c : Char) : Bool := decide (c.toNat ≤ 0x20)

def scheme? (cs : List Char) : Option (String × List Char) :=
  match cs with
  | c :: _ =>
    if c.isAlpha then
      match cs.dropWhile isSchemeChar with
      | ':' :: rest => some (String.ofList ((cs.takeWhile isSchemeChar).map Char.toLower), rest)
      | _ => none
    else none
  | [] => none

def endsAuthority (kind : Kind) (c : Char) : Bool :=
  c == '/' || c == '?' || c == '#' || (kind.isSpecial && c == '\\')

def beforeLast (mark : Char) (cs : List Char) : List Char :=
  ((cs.reverse.dropWhile (· != mark)).drop 1).reverse

/-- User name and password in front of the last at sign, and the rest. -/
def credentials (kind : Kind) (cs : List Char) : Except Error ((List Char × List Char) × List Char) :=
  let part := cs.takeWhile fun c => !endsAuthority kind c
  if part.contains '@' then
    let given := beforeLast '@' part
    let rest := cs.drop (given.length + 1)
    if given = [] ∧ (rest.head?.map (endsAuthority kind)).getD false = true then .error .emptyHost
    else
      let username := given.takeWhile (· != ':')
      let password := given.drop (username.length + 1)
      .ok ((encode userinfoSet username, encode userinfoSet password), rest)
  else .ok (([], []), cs)

/-- The host of an authority: up to a colon outside brackets or the end of the authority. -/
def hostPart (kind : Kind) : Bool → List Char → List Char × List Char
  | _, [] => ([], [])
  | bracketed, c :: cs =>
    if (c == ':' && !bracketed) || endsAuthority kind c then ([], c :: cs)
    else
      let (host, rest) := hostPart kind (if c = '[' then true else if c = ']' then false else bracketed) cs
      (c :: host, rest)

def readHost (kind : Kind) (cs : List Char) : Except Error (List Char) :=
  if kind.isSpecial then
    if cs = [] then .error .emptyHost else domainHost cs
  else opaqueHost cs

def portNumber (port : Nat) (seen : Bool) : List Char → Except Error (Option Nat × List Char)
  | [] => .ok (if seen then some port else none, [])
  | c :: cs =>
    if isDecimalDigit c then
      let port := port * 10 + (c.toNat - '0'.toNat)
      if 65535 < port then .error .badPort else portNumber port true cs
    else if ['/', '\\', '?', '#'].contains c then .ok (if seen then some port else none, c :: cs)
    else .error .badPort

def unusualPort (scheme : String) (port : Option Nat) : Option UInt16 :=
  match port with
  | none => none
  | some n => if usualPort? scheme = some (UInt16.ofNat n) then none else some (UInt16.ofNat n)

def readAuthority (scheme : String) (kind : Kind) (cs : List Char) :
    Except Error (Authority × List Char) := do
  let ((username, password), cs) ← credentials kind cs
  let (hostChars, rest) := hostPart kind false cs
  let host ← readHost kind hostChars
  if host = [] ∧ rest.head? = some ':' then throw .emptyHost
  let (port, rest) ← match rest with
    | ':' :: digits => portNumber 0 false digits
    | _ => pure (none, rest)
  if host = [] ∧ (username ≠ [] ∨ password ≠ []) then throw .emptyHost
  pure ({ username := String.ofList username, password := String.ofList password,
          host := String.ofList host, port := unusualPort scheme port }, rest)

def endsPath (c : Char) : Bool := c == '?' || c == '#'

def beforeQuery (cs : List Char) : List Char := cs.takeWhile fun c => !endsPath c

/-- The path after an authority. Schemes of the web always have one. -/
def pathAfterAuthority (kind : Kind) (cs : List Char) : List Char :=
  match beforeQuery cs with
  | [] => if kind.isSpecial then ['/'] else []
  | c :: rest =>
    let text := if isSlash kind c then rest else c :: rest
    (Path.read kind { backwards := ['/'] } [] text).text

def opaquePath (cs : List Char) : List Char := encode isControl (beforeQuery cs)

def queryAndFragment (kind : Kind) (cs : List Char) : Option String × Option String :=
  let set := if kind.isSpecial then specialQuerySet else querySet
  match cs.dropWhile fun c => !endsPath c with
  | '?' :: rest =>
    let query := rest.takeWhile (· != '#')
    let fragment := match rest.dropWhile (· != '#') with
      | _ :: fragment => some (String.ofList (encode fragmentSet fragment))
      | [] => none
    (some (String.ofList (encode set query)), fragment)
  | _ :: fragment => (none, some (String.ofList (encode fragmentSet fragment)))
  | [] => (none, none)

def assemble (scheme : String) (kind : Kind) (authority : Option Authority) (path cs : List Char) : Url :=
  let (query, fragment) := queryAndFragment kind cs
  { scheme, authority, path := String.ofList path, query, fragment }

def afterSlashes? : List Char → Option (List Char)
  | a :: b :: rest => if isSlash .file a && isSlash .file b then some rest else none
  | _ => none

def startsWithSlash (kind : Kind) (cs : List Char) : Bool :=
  (cs.head?.map (isSlash kind)).getD false

/-- A URL of a file, given with the breaks in it. The local host is no host, and
a drive letter at the start of the path puts the host aside. -/
def readFile (scheme : String) (written : List Char) : Except Error Url :=
  let cs := visible written
  let path (start : List Char) (skipped : Nat) : Path :=
    Path.read .file { backwards := start } [] (beforeQuery (dropVisible skipped written))
  let onHost (host : List Char) (path : Path) : Url :=
    assemble scheme .file (some { host := String.ofList host }) (tidy path.text) cs
  match afterSlashes? cs with
  | none => .ok (onHost [] (path (if startsWithSlash .file cs then [] else ['/']) 0))
  | some rest => do
    let hostChars := rest.takeWhile fun c => !endsAuthority .file c
    if isDriveLike hostChars then pure (onHost [] (path ['/'] 2))
    else
      let host ← if hostChars = [] then pure [] else domainHost hostChars
      let skipped := 2 + hostChars.length
      if host = [] ∨ host = "localhost".toList then pure (onHost [] (path ['/'] skipped))
      else
        let slash := startsWithSlash .file (rest.drop hostChars.length)
        let path := path ['/'] (if slash then skipped + 1 else skipped)
        pure (onHost (if path.onDrive then [] else host) path)

def parse (text : String) : Except Error Url :=
  let written := Text.trimBy isEdge text.toList
  match scheme? (visible written) with
  | none => .error .relative
  | some (scheme, rest) =>
    let kind := Kind.ofScheme scheme
    match kind with
    | .file => readFile scheme (dropVisible (scheme.length + 1) written)
    | .web => do
      let (authority, rest) ← readAuthority scheme kind (rest.dropWhile (isSlash kind))
      pure (assemble scheme kind (some authority) (pathAfterAuthority kind rest) rest)
    | .other =>
      match rest with
      | '/' :: '/' :: rest => do
        let (authority, rest) ← readAuthority scheme kind rest
        pure (assemble scheme kind (some authority) (pathAfterAuthority kind rest) rest)
      | '/' :: _ => .ok (assemble scheme kind none (pathAfterAuthority kind rest) rest)
      | _ => .ok (assemble scheme kind none (opaquePath rest) rest)

end DfsClient.Url
