import GrammarLoad.FileTree.Canonical
import GrammarLoad.Handle
import GrammarLoad.ProviderError

/-!
The dynamic loader and the libraries that it has given out. The loader is no part of this program.
What is relied on is said by its rules, which leave it no choice: it never maps a file twice, and it
knows a library again by every path that it was loaded by and by the file's number.
-/
namespace GrammarLoad

/-- What a library's language function gives back when it is called, if there is one. -/
def EntryPoint.returns? : EntryPoint → Option (Option Language)
  | .missing => none
  | .null => some none
  | .language version => some (some ⟨version⟩)

theorem EntryPoint.returns?_eq_none_iff {entry : EntryPoint} :
    entry.returns? = none ↔ entry = .missing := by
  cases entry <;> simp [returns?]

structure Library where
  file : NodeId
  /-- the path given when it was loaded -/
  loadedAs : Path
  entry : EntryPoint
  deriving DecidableEq, Repr

/-- What a loaded library is kept under. -/
abbrev Key := Path.Components

/-- The canonical place of a path or, where that cannot be told, the path as it is compared. -/
def Key.of (files : FileTree) (p : Path) : Key :=
  match files.canonical? p with
  | some l => ⟨true, false, l⟩
  | none => p.components

/-- A library that the loader gave for a path. -/
structure Loading where
  key : Key
  path : Path
  library : Library
  deriving DecidableEq, Repr

/-- What was loaded, oldest first. -/
structure Loaded where
  loadings : List Loading
  deriving DecidableEq, Repr

namespace Loaded

def empty : Loaded := ⟨[]⟩

def at? (loaded : Loaded) (k : Key) : Option Library :=
  (loaded.loadings.find? (·.key == k)).map (·.library)

def byPath? (loaded : Loaded) (p : Path) : Option Library :=
  (loaded.loadings.find? (·.path == p)).map (·.library)

def byFile? (loaded : Loaded) (id : NodeId) : Option Library :=
  (loaded.loadings.find? (·.library.file == id)).map (·.library)

def insert (loaded : Loaded) (k : Key) (p : Path) (lib : Library) : Loaded :=
  ⟨loaded.loadings ++ [⟨k, p, lib⟩]⟩

/-- Call the language function of the library that is mapped from a file. Where none is mapped,
there is nothing to call. -/
def returns? (loaded : Loaded) (file : NodeId) : Option (Option Language) :=
  (loaded.byFile? file).bind (·.entry.returns?)

/-- A library that is added is found after all others. -/
theorem find?_insert (loaded : Loaded) (k : Key) (p : Path) (lib : Library) (q : Loading → Bool) :
    ((loaded.insert k p lib).loadings.find? q).map (·.library) =
      ((loaded.loadings.find? q).map (·.library)).or
        (if q ⟨k, p, lib⟩ then some lib else none) := by
  cases hf : loaded.loadings.find? q <;> cases hq : q ⟨k, p, lib⟩ <;>
    simp [insert, List.find?_append, hf, hq]

theorem at?_insert (loaded : Loaded) (j : Key) (p : Path) (lib : Library) (k : Key) :
    (loaded.insert j p lib).at? k = (loaded.at? k).or (if j = k then some lib else none) := by
  unfold at?
  rw [find?_insert]
  simp only [beq_iff_eq]

theorem byPath?_insert (loaded : Loaded) (k : Key) (q : Path) (lib : Library) (p : Path) :
    (loaded.insert k q lib).byPath? p =
      (loaded.byPath? p).or (if q = p then some lib else none) := by
  unfold byPath?
  rw [find?_insert]
  simp only [beq_iff_eq]

theorem byFile?_insert (loaded : Loaded) (k : Key) (p : Path) (lib : Library) (id : NodeId) :
    (loaded.insert k p lib).byFile? id =
      (loaded.byFile? id).or (if lib.file = id then some lib else none) := by
  unfold byFile?
  rw [find?_insert]
  simp only [beq_iff_eq]

/-- What is mapped already is what is called, whatever is added. -/
theorem returns?_insert_of_mapped {loaded : Loaded} {id : NodeId} {lib : Library} (k : Key)
    (p : Path) (h : lib.file = id → (loaded.byFile? id).isSome = true) :
    (loaded.insert k p lib).returns? id = loaded.returns? id := by
  unfold returns?
  rw [byFile?_insert]
  by_cases hid : lib.file = id
  · rw [Option.or_of_isSome (h hid)]
  · rw [if_neg hid, Option.or_none]

theorem at?_insert_self {loaded : Loaded} {k : Key} (p : Path) {lib : Library}
    (h : loaded.at? k = none) : (loaded.insert k p lib).at? k = some lib := by
  simp [at?_insert, h]

/-- A kept library is never replaced. -/
theorem at?_insert_of_at? {loaded : Loaded} (j : Key) {k : Key} (p : Path) (lib : Library)
    {kept : Library} (h : loaded.at? k = some kept) :
    (loaded.insert j p lib).at? k = some kept := by
  simp [at?_insert, h]

theorem mem_of_find? {loaded : Loaded} {q : Loading → Bool} {lib : Library}
    (h : (loaded.loadings.find? q).map (·.library) = some lib) :
    ∃ a ∈ loaded.loadings, a.library = lib ∧ q a = true := by
  obtain ⟨a, ha, hlib⟩ := Option.map_eq_some_iff.mp h
  exact ⟨a, List.mem_of_find?_eq_some ha, hlib, List.find?_some ha⟩

theorem mem_of_at? {loaded : Loaded} {k : Key} {lib : Library} (h : loaded.at? k = some lib) :
    ∃ a ∈ loaded.loadings, a.library = lib := by
  obtain ⟨a, ha, hlib, -⟩ := mem_of_find? h
  exact ⟨a, ha, hlib⟩

theorem mem_of_byPath? {loaded : Loaded} {p : Path} {lib : Library}
    (h : loaded.byPath? p = some lib) : ∃ a ∈ loaded.loadings, a.library = lib := by
  obtain ⟨a, ha, hlib, -⟩ := mem_of_find? h
  exact ⟨a, ha, hlib⟩

theorem mem_of_byFile? {loaded : Loaded} {id : NodeId} {lib : Library}
    (h : loaded.byFile? id = some lib) :
    ∃ a ∈ loaded.loadings, a.library = lib ∧ lib.file = id := by
  obtain ⟨a, ha, rfl, hid⟩ := mem_of_find? h
  exact ⟨a, ha, rfl, beq_iff_eq.mp hid⟩

theorem byFile?_isSome_of_mem {loaded : Loaded} {a : Loading} (ha : a ∈ loaded.loadings) :
    (loaded.byFile? a.library.file).isSome = true := by
  unfold byFile?
  rw [Option.isSome_map, List.find?_isSome]
  exact ⟨a, ha, by simp⟩

theorem ne_of_byFile?_eq_none {loaded : Loaded} {id : NodeId} (h : loaded.byFile? id = none)
    {a : Loading} (ha : a ∈ loaded.loadings) : a.library.file ≠ id := by
  simpa using List.find?_eq_none.mp (Option.map_eq_none_iff.mp h) a ha

end Loaded

/-- A library file has a header of this many bytes at least. -/
def headerSize : Nat := 64

/-- What is relied on of a dynamic loader that is given a path to `f`, after what was loaded so
far. -/
structure LoaderRules (load : Loaded → RegularFile → Path → Except LoaderError Library) :
    Prop where
  /-- A path without a slash is no file name to it. -/
  bare : ∀ {loaded f p}, p.hasSlash = false → load loaded f p = .error (.cannotOpen p)
  /-- Of a path that it has loaded by before it does not ask where that leads now. -/
  known : ∀ {loaded f p lib}, p.hasSlash = true → loaded.byPath? p = some lib →
    load loaded f p = .ok lib
  /-- It does not map a file that is mapped. -/
  mapped : ∀ {loaded f p lib}, p.hasSlash = true → loaded.byPath? p = none →
    loaded.byFile? f.id = some lib → load loaded f p = .ok lib
  /-- Else it takes the file for what it holds now. -/
  library : ∀ {loaded f p entry}, p.hasSlash = true → loaded.byPath? p = none →
    loaded.byFile? f.id = none → f.content = .library entry →
      load loaded f p = .ok ⟨f.id, p, entry⟩
  /-- It tells a file that is too short for a library from one that is none. -/
  data : ∀ {loaded f p bytes}, p.hasSlash = true → loaded.byPath? p = none →
    loaded.byFile? f.id = none → f.content = .data bytes →
      load loaded f p = .error (if bytes.length < headerSize then .tooShort p else .notALibrary p)

namespace Loaded

/-- Map a file that is not loaded yet. -/
def mapFile (f : RegularFile) (p : Path) : Except LoaderError Library :=
  match f.content with
  | .library entry => .ok ⟨f.id, p, entry⟩
  | .data bytes => .error (if bytes.length < headerSize then .tooShort p else .notALibrary p)

/-- The loader that goes by the rules. -/
def loadFile (loaded : Loaded) (f : RegularFile) (p : Path) : Except LoaderError Library :=
  if p.hasSlash then
    match (loaded.byPath? p).or (loaded.byFile? f.id) with
    | some lib => .ok lib
    | none => mapFile f p
  else .error (.cannotOpen p)

theorem loadFile_rules : LoaderRules loadFile where
  bare hslash := by simp [loadFile, hslash]
  known hslash hpath := by simp [loadFile, hslash, hpath]
  mapped hslash hpath hfile := by simp [loadFile, hslash, hpath, hfile]
  library hslash hpath hfile hcontent := by
    simp [loadFile, hslash, hpath, hfile, mapFile, hcontent]
  data hslash hpath hfile hcontent := by
    simp [loadFile, hslash, hpath, hfile, mapFile, hcontent]

end Loaded

namespace LoaderRules

variable {load : Loaded → RegularFile → Path → Except LoaderError Library} {loaded : Loaded}
  {f : RegularFile} {p : Path}

/-- The five ways in which a loading ends. -/
theorem cases (h : LoaderRules load) (loaded : Loaded) (f : RegularFile) (p : Path) :
    p.hasSlash = false ∧ load loaded f p = .error (.cannotOpen p) ∨
    p.hasSlash = true ∧
      ((∃ lib, loaded.byPath? p = some lib ∧ load loaded f p = .ok lib) ∨
        loaded.byPath? p = none ∧
          ((∃ lib, loaded.byFile? f.id = some lib ∧ load loaded f p = .ok lib) ∨
            loaded.byFile? f.id = none ∧
              ((∃ entry, f.content = .library entry ∧ load loaded f p = .ok ⟨f.id, p, entry⟩) ∨
                ∃ bytes, f.content = .data bytes ∧ load loaded f p = .error
                  (if bytes.length < headerSize then .tooShort p else .notALibrary p)))) := by
  cases hslash : p.hasSlash with
  | false => exact .inl ⟨rfl, h.bare hslash⟩
  | true =>
    refine .inr ⟨rfl, ?_⟩
    cases hpath : loaded.byPath? p with
    | some lib => exact .inl ⟨lib, rfl, h.known hslash hpath⟩
    | none =>
      refine .inr ⟨rfl, ?_⟩
      cases hfile : loaded.byFile? f.id with
      | some lib => exact .inl ⟨lib, rfl, h.mapped hslash hpath hfile⟩
      | none =>
        refine .inr ⟨rfl, ?_⟩
        cases hcontent : f.content with
        | library entry => exact .inl ⟨entry, rfl, h.library hslash hpath hfile hcontent⟩
        | data bytes => exact .inr ⟨bytes, rfl, h.data hslash hpath hfile hcontent⟩

/-- There is one loader that goes by the rules. -/
theorem eq_loadFile (h : LoaderRules load) : load = Loaded.loadFile := by
  funext loaded f p
  rcases h.cases loaded f p with ⟨hslash, hl⟩ | ⟨hslash, ⟨lib, hpath, hl⟩ | ⟨hpath,
    ⟨lib, hfile, hl⟩ | ⟨hfile, ⟨entry, hcontent, hl⟩ | ⟨bytes, hcontent, hl⟩⟩⟩⟩
  · rw [hl, Loaded.loadFile_rules.bare hslash]
  · rw [hl, Loaded.loadFile_rules.known hslash hpath]
  · rw [hl, Loaded.loadFile_rules.mapped hslash hpath hfile]
  · rw [hl, Loaded.loadFile_rules.library hslash hpath hfile hcontent]
  · rw [hl, Loaded.loadFile_rules.data hslash hpath hfile hcontent]

/-- A loader gives a library that it knows, or maps a file of which it knows none. -/
theorem eq_ok (h : LoaderRules load) {lib : Library} (hlib : load loaded f p = .ok lib) :
    (∃ a ∈ loaded.loadings, a.library = lib) ∨
      loaded.byFile? f.id = none ∧ lib.file = f.id ∧ f.content = .library lib.entry := by
  rcases h.cases loaded f p with ⟨-, hl⟩ | ⟨-, ⟨known, hpath, hl⟩ | ⟨-,
    ⟨known, hfile, hl⟩ | ⟨hfile, ⟨entry, hcontent, hl⟩ | ⟨bytes, -, hl⟩⟩⟩⟩ <;> rw [hl] at hlib
  · cases hlib
  · obtain rfl := Except.ok.inj hlib
    exact .inl (Loaded.mem_of_byPath? hpath)
  · obtain rfl := Except.ok.inj hlib
    obtain ⟨a, ha, hknown, -⟩ := Loaded.mem_of_byFile? hfile
    exact .inl ⟨a, ha, hknown⟩
  · obtain rfl := Except.ok.inj hlib
    exact .inr ⟨hfile, rfl, hcontent⟩
  · cases hlib

/-- A path with a slash fails a loader only by what is in the file. -/
theorem eq_error (h : LoaderRules load) {e : LoaderError} (hslash : p.hasSlash = true)
    (he : load loaded f p = .error e) :
    ∃ bytes, f.content = .data bytes ∧
      e = if bytes.length < headerSize then .tooShort p else .notALibrary p := by
  rcases h.cases loaded f p with ⟨hbare, -⟩ | ⟨-, ⟨lib, -, hl⟩ | ⟨-,
    ⟨lib, -, hl⟩ | ⟨-, ⟨entry, -, hl⟩ | ⟨bytes, hcontent, hl⟩⟩⟩⟩
  · rw [hslash] at hbare
    cases hbare
  · cases hl.symm.trans he
  · cases hl.symm.trans he
  · cases hl.symm.trans he
  · exact ⟨bytes, hcontent, Except.error.inj (he.symm.trans hl)⟩

/-- A loader goes by what it knows of the path and of the file, and by nothing else it has loaded.
-/
theorem congr (h : LoaderRules load) {other : Loaded}
    (hpath : other.byPath? p = loaded.byPath? p)
    (hfile : other.byFile? f.id = loaded.byFile? f.id) :
    load other f p = load loaded f p := by
  rw [h.eq_loadFile]
  unfold Loaded.loadFile
  rw [hpath, hfile]

end LoaderRules

end GrammarLoad
