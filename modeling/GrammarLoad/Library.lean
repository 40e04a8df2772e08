import GrammarLoad.Loader

/-!
Grammar libraries opened from files. Once loaded, a library is kept under the canonical place of the
path it was opened by, and stays what it was whatever happens to the file. A grammar that is taken
from it goes on to call the library's own language function.
-/
namespace GrammarLoad

/-- The library for a key and a path that leads to `f`, and what is loaded then. -/
def Loaded.fetch (loaded : Loaded) (k : Key) (f : RegularFile) (p : Path) :
    Except LoaderError Library × Loaded :=
  match loaded.at? k with
  | some lib => (.ok lib, loaded)
  | none =>
    match loaded.loadFile f p with
    | .ok lib => (.ok lib, loaded.insert k p lib)
    | .error e => (.error e, loaded)

/-- A grammar taken from a library: the name of its binding, and the file whose library has the
language function. It needs neither the path nor the file's name any more. -/
structure LibraryGrammar where
  binding : String
  file : NodeId
  deriving DecidableEq, Repr

namespace LibraryGrammar

def bindingName (p : Path) : String := "library:" ++ p.display

/-- Look up the language function of a library that was reached by a path. -/
def ofLibrary (p : Path) (lib : Library) : Except ProviderError LibraryGrammar :=
  if lib.entry = .missing then
    .error (.missingSymbol p Language.symbol (.undefinedSymbol lib.loadedAs Language.symbol))
  else .ok ⟨bindingName p, lib.file⟩

/-- What the grammar's language function gives back when it is called. -/
def language (g : LibraryGrammar) (loaded : Loaded) : Option Language :=
  (loaded.returns? g.file).join

theorem language_of_returns? {g : LibraryGrammar} {loaded : Loaded} {language : Option Language}
    (h : loaded.returns? g.file = some language) : g.language loaded = language := by
  unfold LibraryGrammar.language
  rw [h]
  rfl

theorem ofLibrary_eq_error_iff {p : Path} {lib : Library} {e : ProviderError} :
    ofLibrary p lib = .error e ↔ lib.entry = .missing ∧
      e = .missingSymbol p Language.symbol (.undefinedSymbol lib.loadedAs Language.symbol) := by
  unfold ofLibrary
  split <;> simp_all [eq_comm]

theorem ofLibrary_eq_ok_iff {p : Path} {lib : Library} {g : LibraryGrammar} :
    ofLibrary p lib = .ok g ↔ lib.entry ≠ .missing ∧ g = ⟨bindingName p, lib.file⟩ := by
  unfold ofLibrary
  split <;> simp_all [eq_comm]

/-- A library gives a grammar as soon as it exports the language function. -/
theorem ofLibrary_isOk_iff {p : Path} {lib : Library} :
    (∃ g, ofLibrary p lib = .ok g) ↔ lib.entry ≠ .missing := by
  simp [ofLibrary_eq_ok_iff]

end LibraryGrammar

/-- Open the grammar library at a path. -/
def Loaded.openPath (loaded : Loaded) (files : FileTree) (p : Path) :
    Except ProviderError LibraryGrammar × Loaded :=
  match files.regularFile? p with
  | none => (.error (.notFound [p]), loaded)
  | some f =>
    match loaded.fetch (.of files p) f p with
    | (.ok lib, after) => (LibraryGrammar.ofLibrary p lib, after)
    | (.error e, after) => (.error (.load p e), after)

namespace Loaded

variable {loaded : Loaded} {files : FileTree} {p : Path} {f : RegularFile}

theorem openPath_of_kept {lib : Library} (hf : files.regularFile? p = some f)
    (hk : loaded.at? (.of files p) = some lib) :
    loaded.openPath files p = (LibraryGrammar.ofLibrary p lib, loaded) := by
  unfold openPath fetch
  rw [hf, hk]

theorem openPath_of_loadFile {lib : Library} (hf : files.regularFile? p = some f)
    (hk : loaded.at? (.of files p) = none) (hl : loaded.loadFile f p = .ok lib) :
    loaded.openPath files p =
      (LibraryGrammar.ofLibrary p lib, loaded.insert (.of files p) p lib) := by
  unfold openPath fetch
  rw [hf, hk]
  simp only [hl]

theorem openPath_of_refused {e : LoaderError} (hf : files.regularFile? p = some f)
    (hk : loaded.at? (.of files p) = none) (hl : loaded.loadFile f p = .error e) :
    loaded.openPath files p = (.error (.load p e), loaded) := by
  unfold openPath fetch
  rw [hf, hk]
  simp only [hl]

/-- The four ways in which an opening ends, and what is loaded then. -/
theorem openPath_cases (loaded : Loaded) (files : FileTree) (p : Path) :
    files.regularFile? p = none ∧ loaded.openPath files p = (.error (.notFound [p]), loaded) ∨
    ∃ f, files.regularFile? p = some f ∧
      ((∃ lib, loaded.at? (.of files p) = some lib ∧
          loaded.openPath files p = (LibraryGrammar.ofLibrary p lib, loaded)) ∨
        (∃ lib, loaded.at? (.of files p) = none ∧ loaded.loadFile f p = .ok lib ∧
          loaded.openPath files p =
            (LibraryGrammar.ofLibrary p lib, loaded.insert (.of files p) p lib)) ∨
        ∃ e, loaded.at? (.of files p) = none ∧ loaded.loadFile f p = .error e ∧
          loaded.openPath files p = (.error (.load p e), loaded)) := by
  cases hf : files.regularFile? p with
  | none => exact .inl ⟨rfl, by unfold openPath; rw [hf]⟩
  | some f =>
    refine .inr ⟨f, rfl, ?_⟩
    cases hk : loaded.at? (.of files p) with
    | some lib => exact .inl ⟨lib, rfl, openPath_of_kept hf hk⟩
    | none =>
      cases hl : loaded.loadFile f p with
      | ok lib => exact .inr (.inl ⟨lib, rfl, rfl, openPath_of_loadFile hf hk hl⟩)
      | error e => exact .inr (.inr ⟨e, rfl, rfl, openPath_of_refused hf hk hl⟩)

/-- An opening keeps nothing new, or one library that the loader gave for a place without any. -/
theorem after_openPath (loaded : Loaded) (files : FileTree) (p : Path) :
    (loaded.openPath files p).2 = loaded ∨
    ∃ f lib, files.regularFile? p = some f ∧ loaded.at? (.of files p) = none ∧
      loaded.loadFile f p = .ok lib ∧
      (loaded.openPath files p).2 = loaded.insert (.of files p) p lib := by
  rcases loaded.openPath_cases files p with
    ⟨-, ho⟩ | ⟨f, hf, ⟨lib, -, ho⟩ | ⟨lib, hk, hl, ho⟩ | ⟨e, -, -, ho⟩⟩
  · exact .inl (congrArg Prod.snd ho)
  · exact .inl (congrArg Prod.snd ho)
  · exact .inr ⟨f, lib, hf, hk, hl, congrArg Prod.snd ho⟩
  · exact .inl (congrArg Prod.snd ho)

theorem at?_openPath_of_at? (files : FileTree) (p : Path) {k : Key} {kept : Library}
    (h : loaded.at? k = some kept) :
    (loaded.openPath files p).2.at? k = some kept := by
  rcases loaded.after_openPath files p with ho | ⟨f, lib, -, -, -, ho⟩
  · rw [ho]
    exact h
  · rw [ho]
    exact at?_insert_of_at? _ p lib h

end Loaded

end GrammarLoad
