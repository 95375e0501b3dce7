import DfsClient.Config.FileTree

/-! Search paths: directories in the order in which they are tried. A list in
text form separates them by colons; empty pieces name no directory. -/

namespace DfsClient.Config

def pieces : List Char → List (List Char)
  | [] => [[]]
  | c :: cs =>
    if c = ':' then [] :: pieces cs
    else
      match pieces cs with
      | [] => [[c]]
      | piece :: rest => (c :: piece) :: rest

structure SearchPath where
  directories : List String := []
deriving DecidableEq, Repr

/-- A name below a directory. A name that starts at the root stands alone; an
empty name leaves the directory with a slash at its end. -/
def joinPath (directory name : String) : String :=
  if name.toList.head? = some '/' then name
  else if directory = "" then name
  else if directory.toList.getLast? = some '/' then directory ++ name
  else directory ++ "/" ++ name

structure Variables where
  configDirectories : Option String := none
  home : Option String := none
deriving DecidableEq, Repr

namespace SearchPath

def listed (text : String) : List String :=
  ((pieces text.toList).filter fun piece => piece != []).map String.ofList

def add (path : SearchPath) (text : String) : SearchPath := ⟨path.directories ++ listed text⟩

/-- A new path, whatever was there before. -/
def set (_ : SearchPath) (text : String) : SearchPath := ⟨listed text⟩

def fallback : String := "/etc/hadoop/conf"

def ofVariables (environment : Variables) : SearchPath :=
  let named := (environment.configDirectories.map listed).getD []
  let home := match environment.home with
    | some home => [joinPath (joinPath home "etc") "hadoop"]
    | none => []
  ⟨named ++ home ++ [fallback]⟩

def isFile (tree : FileTree) (path : String) : Bool :=
  match tree.at? path with
  | .file _ | .refusing => true
  | _ => false

/-- The first directory that holds a regular file of this name decides. -/
def find? (path : SearchPath) (tree : FileTree) (name : String) : Option String :=
  (path.directories.map fun directory => joinPath directory name).find? (isFile tree)

end SearchPath
end DfsClient.Config
