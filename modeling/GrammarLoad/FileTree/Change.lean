import GrammarLoad.FileTree

/-!
Changes to a file tree. Directories on the way to a new name are made, and what was at the name goes
with everything under it. A directory that is moved stays the same directory, with a new way up. A
change that cannot be carried out leaves the tree as it is.
-/
namespace GrammarLoad.FileTree

inductive Change
  | makeDir (path : Path)
  | write (path : Path) (content : Content)
  | link (path target : Path)
  | rename (path target : Path)
  | remove (path : Path)
  /-- a second name for an existing file or link -/
  | hardLink (path existing : Path)
  deriving DecidableEq, Repr

/-- A name in a directory, whether or not it stands for anything. -/
structure Place where
  dir : NodeId
  name : Name
  deriving DecidableEq, Repr

def at? (t : FileTree) (place : Place) : Option NodeId := t.child? place.dir place.name

/-- A directory that was taken away does not change any more. -/
def modifyDir (t : FileTree) (id : NodeId) (f : Directory → Directory) : FileTree :=
  match t.directory? id with
  | some d => { t with nodes := t.nodes.setIfInBounds id (.dir (f d)) }
  | none => t

/-- Whether `a` is met on the first `depth` steps from a directory up to the root. -/
def onWayUp (t : FileTree) (a : NodeId) : Nat → NodeId → Bool
  | 0, _ => false
  | depth + 1, dir => dir == a || (dir != root && t.onWayUp a depth (t.parent dir))

/-- Whether a directory is `a` or lies in it. -/
def isWithin (t : FileTree) (a dir : NodeId) : Bool := t.onWayUp a t.nodes.size dir

/-- A directory is taken away with all that lie in it. -/
def takeAway (t : FileTree) (id : NodeId) : FileTree :=
  match t.directory? id with
  | none => t
  | some _ =>
    { t with nodes := t.nodes.mapIdx fun k node =>
        match node with
        | .dir d => if t.isWithin id k then .removedDir d.parent else node
        | _ => node }

/-- What is at a place goes. -/
def clear (t : FileTree) (place : Place) : FileTree :=
  match t.at? place with
  | none => t
  | some id => (t.takeAway id).modifyDir place.dir (·.remove place.name)

/-- Let a place hold a node, instead of what it held. -/
def put (t : FileTree) (place : Place) (id : NodeId) : FileTree :=
  ((t.clear place).modifyDir place.dir (·.put place.name id)).modifyDir id
    fun d => { d with parent := place.dir }

/-- Let a place hold a new node. Its number is the first that is free. -/
def add (t : FileTree) (place : Place) (node : Node) : FileTree :=
  FileTree.put { t with nodes := t.nodes.push node } place t.nodes.size

/-- Whether something can be put under a name of a directory. -/
def canHold (t : FileTree) (dir : NodeId) (n : Name) : Bool :=
  (t.directory? dir).isSome && n ≠ Path.here && n ≠ Path.up && n.length ≤ maxName

/-- The place that the last name has in its directory; a link there is not followed. -/
def place? (t : FileTree) (p : Path) : Option Place :=
  match p.names.getLast?, t.follow maxLinks (origin p t.workDir) p.names.dropLast with
  | some n, some (.dir dir) => if t.canHold dir n then some ⟨dir, n⟩ else none
  | _, _ => none

/-- Enter one name after the other from a directory, making the directories that are missing. -/
def makeDirs : FileTree → NodeId → List Name → FileTree
  | t, _, [] => t
  | t, dir, n :: rest =>
    match t.follow maxLinks dir [n] with
    | some (.dir inner) => makeDirs t inner rest
    | some (.file ..) => t
    | none =>
      if (t.child? dir n).isNone && t.canHold dir n then
        makeDirs (t.add ⟨dir, n⟩ (.dir (.empty dir))) t.nodes.size rest
      else t

def makeParents (t : FileTree) (p : Path) : FileTree :=
  t.makeDirs (origin p t.workDir) p.names.dropLast

/-- Put a new node at a path. -/
def create (t : FileTree) (p : Path) (node : Node) : FileTree :=
  let u := t.makeParents p
  match u.place? p with
  | none => t
  | some place => u.add place node

/-- Two names of one node stay two names, and nothing moves into itself. -/
def move? (t : FileTree) (a b : Place) : Option FileTree :=
  match t.at? a with
  | none => none
  | some id =>
    if t.at? b = some id then some t
    else if t.isWithin id b.dir || (t.at? b).any (t.isWithin · a.dir) then none
    else some ((t.modifyDir a.dir (·.remove a.name)).put b id)

def rename (t : FileTree) (p q : Path) : FileTree :=
  let u := t.makeParents q
  match u.place? p, u.place? q with
  | some a, some b => (u.move? a b).getD t
  | _, _ => t

def remove (t : FileTree) (p : Path) : FileTree :=
  match t.place? p with
  | none => t
  | some place => t.clear place

/-- A directory has no second name. -/
def hardLink (t : FileTree) (p existing : Path) : FileTree :=
  let u := t.makeParents p
  match (u.place? existing).bind u.at?, u.place? p with
  | some id, some place => if (u.directory? id).isSome then t else u.put place id
  | _, _ => t

def apply (t : FileTree) : Change → FileTree
  | .makeDir p => t.makeDirs (origin p t.workDir) p.names
  | .write p content => t.create p (.file content)
  | .link p target => t.create p (.link target)
  | .rename p q => t.rename p q
  | .remove p => t.remove p
  | .hardLink p existing => t.hardLink p existing

end GrammarLoad.FileTree
