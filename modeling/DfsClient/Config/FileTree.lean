/-! The files that a loader sees. A tree answers, for the text of a path, what
stands there; relative paths start at the current directory. -/

namespace DfsClient.Config

/-- A file may be there and yet refuse to be read. -/
inductive Found where
  | file (bytes : List UInt8)
  | refusing
  | directory
  | missing
  | notDirectory
deriving DecidableEq, Repr

structure FileTree where
  at? : String → Found

structure Listed where
  names : List String
  bytes : Option (List UInt8)

namespace FileTree

def splitSlashes : List Char → List (List Char)
  | [] => [[]]
  | c :: cs =>
    if c = '/' then [] :: splitSlashes cs
    else
      match splitSlashes cs with
      | [] => [[c]]
      | name :: names => (c :: name) :: names

/-- The steps of a path. The empty step after a slash stays in the directory. -/
def steps (path : String) : List String := (splitSlashes path.toList).map String.ofList

/-- What a listing has under names from the current directory. The parents of
everything listed are directories. -/
def lookup (listing : List Listed) (names : List String) : Found :=
  match listing.find? fun listed => listed.names == names with
  | some ⟨_, some bytes⟩ => .file bytes
  | some ⟨_, none⟩ => .directory
  | none =>
    if names = [] ∨ listing.any (fun listed => names.isPrefixOf listed.names) = true then .directory
    else .missing

/-- Walks a path step by step; each step needs a directory to start from.
Nothing is found above the current directory. -/
def walk (listing : List Listed) : List String → List String → Found
  | names, [] => lookup listing names
  | names, step :: rest =>
    match lookup listing names with
    | .directory =>
      if step = "" ∨ step = "." then walk listing names rest
      else if step = ".." then if names = [] then .missing else walk listing names.dropLast rest
      else walk listing (names ++ [step]) rest
    | .file _ | .refusing => .notDirectory
    | other => other

/-- The tree of a listing of relative paths, with nothing outside the current directory. -/
def ofListing (listing : List (String × Option (List UInt8))) : FileTree :=
  let listing := listing.map fun (path, bytes) =>
    (⟨(steps path).filter fun step => step != "" && step != ".", bytes⟩ : Listed)
  ⟨fun path =>
    if path = "" ∨ path.toList.head? = some '/' then .missing
    else walk listing [] (steps path)⟩

end FileTree
end DfsClient.Config
