import GrammarLoad.FileTree.Directory

/-!
A tree of directories, files and symbolic links, and how a path is looked up in it. Every node has a
number of its own: renaming keeps it, a second name shares it, and writing a path again makes a new
node. A path is walked name by name from the root or from the working directory, which stays the
same directory wherever it is moved; links are followed, at most forty.
-/
namespace GrammarLoad

/-- What a library's language function is: not exported, or exported and giving back nothing or a
language of some version. -/
inductive EntryPoint
  | missing
  | null
  | language (version : Nat)
  deriving DecidableEq, Repr

inductive Content
  | data (bytes : List UInt8)
  | library (entry : EntryPoint)
  deriving DecidableEq, Repr

inductive Node
  | dir (d : Directory)
  /-- a directory that was taken away: nothing is in it, and `..` still leads out of it -/
  | removedDir (parent : NodeId)
  | file (content : Content)
  | link (target : Path)
  deriving DecidableEq, Repr

structure FileTree where
  /-- a node's number is its position -/
  nodes : Array Node
  workDir : NodeId

structure RegularFile where
  id : NodeId
  content : Content
  deriving DecidableEq, Repr

namespace FileTree

def root : NodeId := 0

def empty : FileTree := ⟨#[.dir (.empty root)], root⟩

def maxLinks : Nat := 40
def maxName : Nat := 255
def maxPath : Nat := 4095

def node? (t : FileTree) (id : NodeId) : Option Node := t.nodes[id]?

def directory? (t : FileTree) (id : NodeId) : Option Directory :=
  match t.node? id with
  | some (.dir d) => some d
  | _ => none

def child? (t : FileTree) (dir : NodeId) (n : Name) : Option NodeId :=
  (t.directory? dir).bind (·.idOf? n)

/-- What `..` leads to. -/
def parent (t : FileTree) (dir : NodeId) : NodeId :=
  match t.node? dir with
  | some (.dir d) => d.parent
  | some (.removedDir p) => p
  | _ => dir

/-- What a path can lead to. A file is found under a name in a directory. -/
inductive Found
  | dir (id : NodeId)
  | file (dir : NodeId) (name : Name) (id : NodeId)
  deriving DecidableEq, Repr

/-- How far a walk gets before it has to follow a link. -/
inductive Progress
  | found (f : Found)
  | link (dir : NodeId) (target : Path) (rest : List Name)
  | lost

/-- Look up names one in the other from a directory. -/
def walk (t : FileTree) : NodeId → List Name → Progress
  | dir, [] => .found (.dir dir)
  | dir, n :: rest =>
    if n = Path.here then walk t dir rest
    else if n = Path.up then walk t (t.parent dir) rest
    else if maxName < n.length then .lost
    else match t.child? dir n with
      | none => .lost
      | some id =>
        match t.node? id with
        | some (.dir _) => walk t id rest
        | some (.link target) => .link dir target rest
        | some (.file _) => if rest.isEmpty then .found (.file dir n id) else .lost
        | _ => .lost

/-- Where a path starts from when it is met in a directory. -/
def origin (p : Path) (dir : NodeId) : NodeId := if p.isAbsolute then root else dir

def follow (t : FileTree) : Nat → NodeId → List Name → Option Found
  | links, dir, names =>
    match t.walk dir names with
    | .found f => some f
    | .lost => none
    | .link dir target rest =>
      match links with
      | 0 => none
      | links + 1 => t.follow links (origin target dir) (target.segments ++ rest)

def find? (t : FileTree) (p : Path) : Option Found :=
  if p.isEmpty ∨ p.bytes.contains 0 ∨ maxPath < p.bytes.length then none
  else t.follow maxLinks (origin p t.workDir) p.segments

def pathExists (t : FileTree) (p : Path) : Bool := (t.find? p).isSome

def fileOf? (t : FileTree) : Found → Option RegularFile
  | .dir _ => none
  | .file _ _ id =>
    match t.node? id with
    | some (.file content) => some ⟨id, content⟩
    | _ => none

def regularFile? (t : FileTree) (p : Path) : Option RegularFile := (t.find? p).bind t.fileOf?

def isFile (t : FileTree) (p : Path) : Bool := (t.regularFile? p).isSome

theorem isFile_iff {t : FileTree} {p : Path} :
    t.isFile p = true ↔ ∃ f, t.regularFile? p = some f := Option.isSome_iff_exists

theorem child?_of_walk {t : FileTree} {names : List Name} {start dir id : NodeId} {n : Name}
    (h : t.walk start names = .found (.file dir n id)) : t.child? dir n = some id := by
  induction names generalizing start with
  | nil => simp [walk] at h
  | cons k rest ih =>
    unfold walk at h
    split at h
    · exact ih h
    · split at h
      · exact ih h
      · split at h
        · simp at h
        · split at h
          · simp at h
          · next hk =>
            split at h
            · exact ih h
            · simp at h
            · split at h
              · simp only [Progress.found.injEq, Found.file.injEq] at h
                obtain ⟨rfl, rfl, rfl⟩ := h
                exact hk
              · simp at h
            · simp at h

theorem child?_of_follow {t : FileTree} {links : Nat} {names : List Name} {start dir id : NodeId}
    {n : Name} (h : t.follow links start names = some (.file dir n id)) :
    t.child? dir n = some id := by
  induction links generalizing start names with
  | zero =>
    unfold follow at h
    split at h
    · next hw =>
      obtain rfl := Option.some.inj h
      exact child?_of_walk hw
    · simp at h
    · simp at h
  | succ links ih =>
    unfold follow at h
    split at h
    · next hw =>
      obtain rfl := Option.some.inj h
      exact child?_of_walk hw
    · simp at h
    · exact ih h

theorem eq_file_of_fileOf? {t : FileTree} {found : Found} {f : RegularFile}
    (h : t.fileOf? found = some f) :
    t.node? f.id = some (.file f.content) ∧ ∃ dir n, found = .file dir n f.id := by
  cases found with
  | dir id => simp [fileOf?] at h
  | file dir n id =>
    simp only [fileOf?] at h
    split at h
    · next hn =>
      obtain rfl := Option.some.inj h
      exact ⟨hn, dir, n, rfl⟩
    · simp at h

theorem content_of_regularFile? {t : FileTree} {p : Path} {f : RegularFile}
    (h : t.regularFile? p = some f) : t.node? f.id = some (.file f.content) := by
  obtain ⟨found, _, hf⟩ := Option.bind_eq_some_iff.mp h
  exact (eq_file_of_fileOf? hf).1

end FileTree

end GrammarLoad
