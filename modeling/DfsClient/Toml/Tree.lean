import DfsClient.Toml.Value

/-! The tree that grows while a document is read. A table remembers how it came
about, since that decides what may still be added to it: a table with a header
of its own is closed to dotted keys, one that a dotted key made is closed to
headers, and one that only a longer header implied may still get its header. -/

namespace DfsClient.Toml

inductive Origin where
  | header
  | implied
  | dotted
deriving DecidableEq, Repr

mutual

inductive Node where
  | value (value : Value)
  | branch (branch : Branch)
  | branches (latestFirst : List Branch)

inductive Branch where
  | mk (origin : Origin) (nodes : List (String × Node))

end

namespace Branch

def origin : Branch → Origin
  | .mk origin _ => origin

def nodes : Branch → List (String × Node)
  | .mk _ nodes => nodes

def empty (origin : Origin) : Branch := .mk origin []

def find? (branch : Branch) (key : String) : Option Node := branch.nodes.lookup key

def putNode : List (String × Node) → String → Node → List (String × Node)
  | [], key, node => [(key, node)]
  | (other, held) :: rest, key, node =>
    if key = other then (key, node) :: rest else (other, held) :: putNode rest key node

def put (branch : Branch) (key : String) (node : Node) : Branch :=
  .mk branch.origin (putNode branch.nodes key node)

def remove (branch : Branch) (key : String) : Branch :=
  .mk branch.origin (branch.nodes.filter fun node => node.1 != key)

/-- Changes the branch at the end of a path. Missing branches on the way come
into being with the given origin; a list of tables is entered at its last one. -/
def alter (made : Origin) (change : Branch → Option Branch) : List String → Branch → Option Branch
  | [], branch => change branch
  | key :: path, branch =>
    match branch.find? key with
    | none => (alter made change path (empty made)).map fun child => branch.put key (.branch child)
    | some (.value _) => none
    | some (.branch child) =>
      if made = .dotted ∧ child.origin = .header then none
      else (alter made change path child).map fun child => branch.put key (.branch child)
    | some (.branches []) => none
    | some (.branches (last :: earlier)) =>
      (alter made change path last).map fun last => branch.put key (.branches (last :: earlier))

/-- Adds a value under a key of a branch. A plain key does not belong into a
table that a dotted key made, nor a dotted one into any other. -/
def addLeaf (plain : Bool) (key : String) (value : Value) (branch : Branch) : Option Branch :=
  if (branch.origin == .dotted) == plain then none
  else if (branch.find? key).isSome then none
  else some (branch.put key (.value value))

/-- Adds `path.key = value`. -/
def addValue (branch : Branch) (path : List String) (key : String) (value : Value) : Option Branch :=
  branch.alter .dotted (addLeaf path.isEmpty key value) path

end Branch

/-- Reading a document: the tree so far and the table that the last header
opened, which is put into the tree when the next header comes. -/
structure Growth where
  root : Branch := .empty .header
  path : List String := []
  current : Branch := .empty .header
  inList : Bool := false

namespace Growth

def start : Growth := {}

/-- Puts the open table under its key: as a table, or as the last of a list of tables. -/
def closeInto (open_ : Branch) (inList : Bool) (key : String) (parent : Branch) : Option Branch :=
  match parent.find? key, inList with
  | none, false => some (parent.put key (.branch open_))
  | none, true => some (parent.put key (.branches [open_]))
  | some (.branches elements), true => some (parent.put key (.branches (open_ :: elements)))
  | some (.branch child), false =>
    if child.origin = .header then none else some (parent.put key (.branch open_))
  | _, _ => none

def close (growth : Growth) : Option Branch :=
  match growth.path.getLast? with
  | none => some growth.current
  | some key =>
    growth.root.alter .implied (closeInto growth.current growth.inList key) growth.path.dropLast

/-- The table that a header finds: nothing, or one that was only implied. It
leaves the tree while it is open and so comes back as the last of its parent. -/
def takeTable (parent : Branch) (key : String) : Option (Branch × Branch) :=
  match parent.find? key with
  | none => some (.empty .header, parent)
  | some (.branch child) =>
    if child.origin = .implied then some (.mk .header child.nodes, parent.remove key) else none
  | _ => none

def descend : List String → Branch → Option Branch
  | [], branch => some branch
  | key :: path, branch =>
    match branch.find? key with
    | none => descend path (.empty .implied)
    | some (.value _) => none
    | some (.branch child) => descend path child
    | some (.branches elements) => elements.head?.bind (descend path)

/-- `[path]` opens a table. -/
def openTable (growth : Growth) (path : List String) : Option Growth := do
  let root ← growth.close
  let key ← path.getLast?
  let parent ← descend path.dropLast root
  let (current, _) ← takeTable parent key
  let root ← root.alter .implied (fun parent => (takeTable parent key).map Prod.snd) path.dropLast
  some { root, path, current, inList := false }

/-- A list of tables under a key, made if the key is free. -/
def holdList (key : String) (parent : Branch) : Option Branch :=
  match parent.find? key with
  | none => some (parent.put key (.branches []))
  | some (.branches _) => some parent
  | _ => none

/-- `[[path]]` opens one more table of a list. -/
def openListed (growth : Growth) (path : List String) : Option Growth := do
  let root ← growth.close
  let key ← path.getLast?
  let root ← root.alter .implied (holdList key) path.dropLast
  some { root, path, current := .empty .header, inList := true }

/-- `path.key = value` in the open table. -/
def add (growth : Growth) (path : List String) (key : String) (value : Value) : Option Growth := do
  let current ← growth.current.addValue path key value
  some { growth with current }

end Growth

mutual

def Node.toValue : Node → Value
  | .value value => value
  | .branch branch => .table branch.toEntries
  | .branches elements => .array (elementsToValues elements).reverse

def Branch.toEntries : Branch → Entries
  | .mk _ nodes => nodesToEntries nodes

def elementsToValues : List Branch → List Value
  | [] => []
  | element :: elements => .table element.toEntries :: elementsToValues elements

def nodesToEntries : List (String × Node) → Entries
  | [] => []
  | (key, node) :: nodes => (key, node.toValue) :: nodesToEntries nodes

end

end DfsClient.Toml
