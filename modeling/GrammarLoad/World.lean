import GrammarLoad.Discovery
import GrammarLoad.FileTree.Change
import GrammarLoad.Run

/-!
The world that a grammar is bound in: the environment, the program's host, the files, the linked
grammar and the libraries loaded so far. Only opening a library changes it, and only in what is
loaded.
-/
namespace GrammarLoad

structure World where
  environment : Environment
  host : Host
  files : FileTree
  linked : LinkedGrammar
  loaded : Loaded

namespace World

/-- A world with nothing in it but the directory that relative paths start from and the one that
the running program lies in. -/
def start (workDir programDir : Path) (linked : LinkedGrammar) : World :=
  let files := (FileTree.empty.apply (.makeDir workDir)).apply (.makeDir programDir)
  let entered := match files.find? workDir with
    | some (.dir id) => id
    | _ => FileTree.root
  { environment := fun _ => none
    host := ⟨none, some programDir⟩
    files := { files with workDir := entered }
    linked
    loaded := .empty }

/-- The binding that the environment asks for: a library named there, else the linked grammar, else
the first library on the search paths. -/
def chooseBinding (w : World) : Except ProviderError Binding :=
  match w.environment.path? Environment.libraryVariable with
  | some p => .ok (.library p)
  | none =>
    if w.linked.isAvailable then .ok .linked
    else (Discovery.findLibrary w.files (w.environment.searchPaths w.host)).map .library

def openLibrary (w : World) (p : Path) : Except ProviderError LibraryGrammar × World :=
  let opened := w.loaded.openPath w.files p
  (opened.1, { w with loaded := opened.2 })

/-- Opening a library tells so if it succeeds. -/
def openEvents (p : Path) : Except ProviderError LibraryGrammar → List Event
  | .ok _ => [.loaded p]
  | .error _ => []

/-- The provider of a binding. The linked grammar is provided even where there is none, and errs
when it is asked. -/
def provide (w : World) : Binding → Except ProviderError Bound × List Event × World
  | .linked => (.ok .linked, [.binding .linked], w)
  | .library p =>
    let opened := w.openLibrary p
    (opened.1.map .library, .binding (.library p) :: openEvents p opened.1, opened.2)

/-- The name under which a check is recorded when there is nothing to bind. -/
def unbound : String := "unbound"

variable {σ : Type} [Reporter σ]

/-- Bind what the environment asks for and check it once. Whatever goes wrong is recorded. -/
def configuredRun (w : World) (s : σ) : Run σ × List Event × World :=
  match w.chooseBinding with
  | .error e =>
    let next := (Run.start s).recordError unbound e
    (next.1, next.2, w)
  | .ok b =>
    match w.provide b with
    | (.error e, events, after) =>
      let next := (Run.start s).recordError b.name e
      (next.1, events ++ next.2, after)
    | (.ok bound, events, after) =>
      let next := (Run.start s).check bound.binding (bound.ask after.linked after.loaded)
      (next.1, events ++ next.2, after)

theorem chooseBinding_of_library {w : World} {p : Path}
    (h : w.environment.path? Environment.libraryVariable = some p) :
    w.chooseBinding = .ok (.library p) := by
  simp [chooseBinding, h]

theorem chooseBinding_of_linked {w : World}
    (h : w.environment.path? Environment.libraryVariable = none)
    (hl : w.linked.isAvailable = true) : w.chooseBinding = .ok .linked := by
  simp [chooseBinding, h, hl]

theorem chooseBinding_of_search {w : World}
    (h : w.environment.path? Environment.libraryVariable = none)
    (hl : w.linked.isAvailable = false) :
    w.chooseBinding =
      (Discovery.findLibrary w.files (w.environment.searchPaths w.host)).map .library := by
  simp [chooseBinding, h, hl]

theorem binding_of_openPath {loaded : Loaded} {files : FileTree} {p : Path} {g : LibraryGrammar}
    (h : (loaded.openPath files p).1 = .ok g) : g.binding = LibraryGrammar.bindingName p := by
  unfold Loaded.openPath at h
  split at h
  · simp at h
  · split at h
    · obtain ⟨-, rfl⟩ := LibraryGrammar.ofLibrary_eq_ok_iff.mp h
      rfl
    · simp at h

/-- A provider carries the name of the binding it was made for. -/
theorem binding_of_provide {w : World} {b : Binding} {bound : Bound}
    (h : (w.provide b).1 = .ok bound) : bound.binding = b.name := by
  cases b with
  | linked =>
    simp only [provide, Except.ok.injEq] at h
    rw [← h]
    rfl
  | library p =>
    simp only [provide] at h
    cases ho : (w.openLibrary p).1 with
    | error e => simp [ho, Except.map] at h
    | ok g =>
      simp only [ho, Except.map, Except.ok.injEq] at h
      rw [← h]
      exact binding_of_openPath ho

end World

end GrammarLoad
