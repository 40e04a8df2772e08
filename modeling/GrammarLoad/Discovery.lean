import GrammarLoad.FileTree
import GrammarLoad.ProviderError

/-!
Where a compiled grammar is looked for. The environment, the user's home and the directory of the
running program give a list of directories; each of them may hold the library under either of two
names, and the first of these files is taken.
-/
namespace GrammarLoad

abbrev Environment := String → Option (List UInt8)

/-- What the system knows of the running program, its environment apart. -/
structure Host where
  /-- the home directory that the user's account is listed with -/
  home : Option Path
  /-- the directory that the program lies in, where that can be told -/
  programDir : Option Path
  deriving DecidableEq, Repr

namespace Environment

def set (e : Environment) (name : String) (value : Option (List UInt8)) : Environment :=
  fun k => if k = name then value else e k

/-- The path that a variable holds, unless it is unset or empty. -/
def path? (e : Environment) (name : String) : Option Path :=
  (e name).bind fun bytes => if bytes.isEmpty then none else some ⟨bytes⟩

/-- The library to load instead of the linked grammar. -/
def libraryVariable : String := "TREE_SITTER_GLOSS_LIBRARY"

/-- The directory whose `grammars` are searched first. -/
def runtimeVariable : String := "TREE_SITTER_GLOSS_RUNTIME"

/-- The home directory: the variable's or, where it is unset or empty, the account's. -/
def homeDir (e : Environment) (host : Host) : Option Path :=
  (e.path? "HOME").or (host.home.filter (!·.isEmpty))

/-- A user's directory: the variable's if it is absolute, else one under the home directory. -/
def userDir (e : Environment) (host : Host) (name fallback : String) : Option Path :=
  match (e.path? name).filter (·.isAbsolute) with
  | some p => some p
  | none => (e.homeDir host).map (·.join (.ofText fallback))

def cacheDir (e : Environment) (host : Host) : Option Path :=
  e.userDir host "XDG_CACHE_HOME" ".cache"

def configDir (e : Environment) (host : Host) : Option Path :=
  e.userDir host "XDG_CONFIG_HOME" ".config"

/-- The directories to search, in order; the last one lies beside the running program. -/
def searchPaths (e : Environment) (host : Host) : List Path :=
  ((e.path? runtimeVariable).map (·.join (.ofText "grammars"))).toList ++
  ((e.cacheDir host).map fun p => (p.join (.ofText "tree-sitter")).join (.ofText "lib")).toList ++
  ((e.configDir host).map fun p =>
    (p.join (.ofText "tree-sitter-gloss")).join (.ofText "grammars")).toList ++
  (host.programDir.map (·.join (.ofText "grammars"))).toList

theorem set_self (e : Environment) (name : String) (value : Option (List UInt8)) :
    e.set name value name = value := by simp [set]

theorem set_of_ne (e : Environment) {name k : String} (value : Option (List UInt8))
    (h : k ≠ name) : e.set name value k = e k := by simp [set, h]

theorem path?_eq_none_iff {e : Environment} {name : String} :
    e.path? name = none ↔ e name = none ∨ e name = some [] := by
  unfold path?
  cases h : e name with
  | none => simp
  | some bytes => cases bytes <;> simp

end Environment

namespace Discovery

/-- The names that a compiled grammar may have in a directory. -/
def candidates (dir : Path) : List Path :=
  [dir.join (.ofText "gloss.so"), dir.join (.ofText "libtree-sitter-gloss.so")]

def allCandidates (dirs : List Path) : List Path := dirs.flatMap candidates

/-- Try candidates one after the other. Those that are no file are listed after what was searched
before. -/
def tryAll (files : FileTree) (searched : List Path) : List Path → Except (List Path) Path
  | [] => .error searched
  | c :: rest => if files.isFile c then .ok c else tryAll files (searched ++ [c]) rest

/-- Search directories one after the other. -/
def searchFrom (files : FileTree) (searched : List Path) : List Path → Except (List Path) Path
  | [] => .error searched
  | dir :: rest =>
    match tryAll files searched (candidates dir) with
    | .ok p => .ok p
    | .error now => searchFrom files now rest

/-- The first candidate that is a file, or all that were tried. -/
def findLibrary (files : FileTree) (dirs : List Path) : Except ProviderError Path :=
  (searchFrom files [] dirs).mapError .notFound

theorem tryAll_eq (files : FileTree) (searched cs : List Path) :
    tryAll files searched cs =
      match cs.find? files.isFile with
      | some p => .ok p
      | none => .error (searched ++ cs) := by
  induction cs generalizing searched with
  | nil => simp [tryAll]
  | cons c rest ih =>
    cases hc : files.isFile c with
    | true => simp [tryAll, hc]
    | false => simp [tryAll, hc, ih]

/-- What is searched grows by the candidates of each directory until one of them is a file. -/
theorem searchFrom_eq (files : FileTree) (searched dirs : List Path) :
    searchFrom files searched dirs =
      match (allCandidates dirs).find? files.isFile with
      | some p => .ok p
      | none => .error (searched ++ allCandidates dirs) := by
  induction dirs generalizing searched with
  | nil => simp [searchFrom, allCandidates]
  | cons dir rest ih =>
    have hall : allCandidates (dir :: rest) = candidates dir ++ allCandidates rest :=
      List.flatMap_cons
    rw [searchFrom, tryAll_eq, hall, List.find?_append]
    cases (candidates dir).find? files.isFile with
    | some p => rfl
    | none => simp [ih]

theorem findLibrary_eq_ok {files : FileTree} {dirs : List Path} {p : Path}
    (h : (allCandidates dirs).find? files.isFile = some p) : findLibrary files dirs = .ok p := by
  rw [findLibrary, searchFrom_eq, h]
  rfl

theorem findLibrary_eq_error {files : FileTree} {dirs : List Path}
    (h : (allCandidates dirs).find? files.isFile = none) :
    findLibrary files dirs = .error (.notFound (allCandidates dirs)) := by
  rw [findLibrary, searchFrom_eq, h]
  rfl

/-- The search fails only if it tried every candidate. -/
theorem findLibrary_eq_error_iff {files : FileTree} {dirs : List Path} {e : ProviderError} :
    findLibrary files dirs = .error e ↔
      (∀ c ∈ allCandidates dirs, files.isFile c = false) ∧ e = .notFound (allCandidates dirs) := by
  cases h : (allCandidates dirs).find? files.isFile with
  | none =>
    have hnone : ∀ c ∈ allCandidates dirs, files.isFile c = false := by
      simpa using List.find?_eq_none.mp h
    rw [findLibrary_eq_error h, Except.error.injEq]
    exact ⟨fun he => ⟨hnone, he.symm⟩, fun he => he.2.symm⟩
  | some p =>
    have hp : files.isFile p = true := List.find?_some h
    rw [findLibrary_eq_ok h]
    simp only [reduceCtorEq, false_iff, not_and]
    intro hnone
    simp [hnone p (List.mem_of_find?_eq_some h)] at hp

end Discovery

end GrammarLoad
