import GrammarLoad.FileTree

/-!
Canonical places: the names that lead from the root to what a path leads to, with every link, `.`
and `..` resolved. They are read off on the way up. Going down by them comes to the same node, so
files with one canonical place are the same file.
-/
namespace GrammarLoad

/-- Names from the root down; the root is `[]`. -/
abbrev Location := List Name

namespace FileTree

def nameOf? (t : FileTree) (dir : NodeId) : Option Name :=
  (t.directory? (t.parent dir)).bind (·.nameOf? dir)

/-- The names that lead from the root through a directory, which lies less than `depth` below it,
and on to what is below that. -/
def namesTo? (t : FileTree) : Nat → NodeId → Location → Option Location
  | 0, _, _ => none
  | depth + 1, dir, below =>
    if dir = root then some below
    else (t.nameOf? dir).bind fun n => t.namesTo? depth (t.parent dir) (n :: below)

/-- A directory has a location as long as it is in the tree. -/
def location? (t : FileTree) (dir : NodeId) : Option Location := t.namesTo? t.nodes.size dir []

def locationOf? (t : FileTree) : Found → Option Location
  | .dir id => t.location? id
  | .file dir n _ => (t.location? dir).map (· ++ [n])

def pathLength (l : Location) : Nat := l.foldr (fun n length => n.length + 1 + length) 0

/-- What follows a directory's name asks for a directory: `..`, or nothing but `.` names. -/
def asksForDir : List Name → Bool
  | [] => false
  | n :: rest => if n = Path.here then rest.isEmpty || asksForDir rest else n == Path.up

/-- The names that are looked up on a walk, each with the directory that it is looked up in. A slash
is put behind a name where what follows asks for a directory. -/
def lookups (t : FileTree) : NodeId → List Name → List (NodeId × Name)
  | _, [] => []
  | dir, n :: rest =>
    if n = Path.here then t.lookups dir rest
    else if n = Path.up then t.lookups (t.parent dir) rest
    else match t.child? dir n with
      | none => []
      | some id =>
        match t.node? id with
        | some (.dir _) =>
          (dir, if asksForDir rest then n ++ [Path.slash] else n) :: t.lookups id rest
        | _ => [(dir, n)]

/-- All names that are looked up while links are followed. -/
def allLookups (t : FileTree) : Nat → NodeId → List Name → List (NodeId × Name)
  | links, dir, names =>
    t.lookups dir names ++
      match t.walk dir names with
      | .link dir target rest =>
        match links with
        | 0 => []
        | links + 1 => t.allLookups links (origin target dir) (target.segments ++ rest)
      | _ => []

/-- A name can be looked up in a directory if the way there from the root is not too long to be
written. -/
def isWritable (t : FileTree) (lookup : NodeId × Name) : Bool :=
  (t.location? lookup.1).any fun l => pathLength (l ++ [lookup.2]) ≤ maxPath

/-- The place a path leads to, with every link, `.` and `..` resolved. It cannot be told of a
relative path while the working directory is not in the tree, nor where a place on the way is too
long to be written. -/
def canonical? (t : FileTree) (p : Path) : Option Location :=
  if !p.isAbsolute && (t.location? t.workDir).isNone then none
  else ((t.find? p).bind t.locationOf?).filter fun _ =>
    (t.allLookups maxLinks (origin p t.workDir) p.segments).all t.isWritable

/-- The node at a location below a directory. -/
def descend? (t : FileTree) : NodeId → Location → Option NodeId
  | id, [] => some id
  | id, n :: l => (t.child? id n).bind (t.descend? · l)

theorem descend?_append {t : FileTree} (id : NodeId) (l k : Location) :
    t.descend? id (l ++ k) = (t.descend? id l).bind (t.descend? · k) := by
  induction l generalizing id with
  | nil => rfl
  | cons n l ih =>
    cases h : t.child? id n with
    | none => simp [descend?, h]
    | some k => simp [descend?, h, ih]

theorem child?_of_nameOf? {t : FileTree} {dir : NodeId} {n : Name} (h : t.nameOf? dir = some n) :
    t.child? (t.parent dir) n = some dir := by
  obtain ⟨d, hd, hn⟩ := Option.bind_eq_some_iff.mp h
  simp [child?, hd, Directory.idOf?_of_nameOf? hn]

/-- Going down by the names that were read off on the way up comes back. -/
theorem descend?_of_namesTo? {t : FileTree} {depth : Nat} {dir : NodeId} {below l : Location}
    (h : t.namesTo? depth dir below = some l) : t.descend? root l = t.descend? dir below := by
  induction depth generalizing dir below with
  | zero => simp [namesTo?] at h
  | succ depth ih =>
    unfold namesTo? at h
    split at h
    · next hr =>
      obtain rfl := Option.some.inj h
      rw [hr]
    · obtain ⟨n, hn, hl⟩ := Option.bind_eq_some_iff.mp h
      rw [ih hl, descend?, child?_of_nameOf? hn]
      rfl

theorem descend?_of_location? {t : FileTree} {dir : NodeId} {l : Location}
    (h : t.location? dir = some l) : t.descend? root l = some dir :=
  descend?_of_namesTo? h

/-- The location of a file that is found leads down to that file. -/
theorem descend?_of_find? {t : FileTree} {p : Path} {dir id : NodeId} {n : Name} {l : Location}
    (h : t.find? p = some (.file dir n id)) (hl : t.locationOf? (.file dir n id) = some l) :
    t.descend? root l = some id := by
  obtain ⟨k, hk, rfl⟩ := Option.map_eq_some_iff.mp hl
  have hn : t.child? dir n = some id := by
    unfold find? at h
    split at h
    · simp at h
    · exact child?_of_follow h
  rw [descend?_append, descend?_of_location? hk]
  simp [descend?, hn]

theorem descend?_of_canonical? {t : FileTree} {p : Path} {f : RegularFile} {l : Location}
    (hf : t.regularFile? p = some f) (hl : t.canonical? p = some l) :
    t.descend? root l = some f.id := by
  obtain ⟨found, hp, hfile⟩ := Option.bind_eq_some_iff.mp hf
  obtain ⟨-, dir, n, rfl⟩ := eq_file_of_fileOf? hfile
  unfold canonical? at hl
  split at hl
  · simp at hl
  · exact descend?_of_find? hp (by simpa [hp] using (Option.filter_eq_some_iff.mp hl).1)

/-- Files with one canonical place are the same file. -/
theorem regularFile?_unique {t : FileTree} {p q : Path} {f g : RegularFile} {l : Location}
    (hf : t.regularFile? p = some f) (hg : t.regularFile? q = some g)
    (hp : t.canonical? p = some l) (hq : t.canonical? q = some l) : f = g := by
  have hid : f.id = g.id := by
    have h := descend?_of_canonical? hf hp
    rw [descend?_of_canonical? hg hq] at h
    exact (Option.some.inj h).symm
  have hcontent : f.content = g.content := by
    have h := content_of_regularFile? hf
    rw [hid, content_of_regularFile? hg] at h
    simpa using h.symm
  obtain ⟨fid, fcontent⟩ := f
  obtain ⟨gid, gcontent⟩ := g
  simp_all

end FileTree

end GrammarLoad
