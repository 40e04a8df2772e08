import GrammarLoad.Proofs.Loadings

/-!
Two spellings of one file. Paths with one canonical place lead to the same file and ask for the same
library, so their openings end alike where a library is kept for that place. Where none is, the
loader goes by the path as it is given: it refuses a path without a slash, and it does not ask where
a path leads that it knows.
-/
namespace GrammarLoad

/-- Two openings end alike, each with the world after it: with the same language, or with errors of
one kind. -/
def EndAlike : Except ProviderError LibraryGrammar × World →
    Except ProviderError LibraryGrammar × World → Prop
  | (.ok g, w), (.ok h, w') => g.language w.loaded = h.language w'.loaded
  | (.error e, _), (.error e', _) => e.kind = e'.kind
  | _, _ => False

instance : DecidableRel EndAlike
  | (.ok g, w), (.ok h, w') =>
    inferInstanceAs (Decidable (g.language w.loaded = h.language w'.loaded))
  | (.error e, _), (.error e', _) => inferInstanceAs (Decidable (e.kind = e'.kind))
  | (.ok _, _), (.error _, _) => .isFalse id
  | (.error _, _), (.ok _, _) => .isFalse id

/-- Libraries with the same entry point end alike where a call by its file calls each. -/
theorem LibraryGrammar.endAlike_ofLibrary (p q : Path) {lib lib' : Library} {w w' : World}
    (hentry : lib.entry = lib'.entry)
    (hlib : w.loaded.returns? lib.file = lib.entry.returns?)
    (hlib' : w'.loaded.returns? lib'.file = lib'.entry.returns?) :
    EndAlike (ofLibrary p lib, w) (ofLibrary q lib', w') := by
  unfold ofLibrary
  rw [← hentry]
  split
  · exact rfl
  · simp only [EndAlike, LibraryGrammar.language]
    rw [hlib, hlib', hentry]

namespace Loaded

/-- If the loader knows the path, then by a library of the very file that it leads to. -/
def Settled (loaded : Loaded) (files : FileTree) (p : Path) : Prop :=
  ∀ lib ∈ loaded.byPath? p, ∀ f ∈ files.regularFile? p, lib.file = f.id

instance (loaded : Loaded) (files : FileTree) (p : Path) : Decidable (loaded.Settled files p) :=
  inferInstanceAs (Decidable (∀ _ ∈ _, _))

variable {loaded : Loaded}

namespace MapsOnce

/-- For a settled path the file alone tells which library the loader knows. -/
theorem byPath?_or_byFile? (h : loaded.MapsOnce) {p : Path} {f : RegularFile}
    (hp : ∀ lib ∈ loaded.byPath? p, lib.file = f.id) :
    (loaded.byPath? p).or (loaded.byFile? f.id) = loaded.byFile? f.id := by
  cases hlib : loaded.byPath? p with
  | none => rfl
  | some lib =>
    obtain ⟨a, ha, rfl⟩ := mem_of_byPath? hlib
    have hfile : a.library.file = f.id := hp _ hlib
    rw [← hfile, h.byFile?_of_mem ha]
    rfl

/-- The loader treats two settled paths to one file alike, if both have a slash or neither has. -/
theorem loadFile_alike (h : loaded.MapsOnce) {p q : Path} {f : RegularFile}
    (hslash : p.hasSlash = q.hasSlash) (hp : ∀ lib ∈ loaded.byPath? p, lib.file = f.id)
    (hq : ∀ lib ∈ loaded.byPath? q, lib.file = f.id) :
    (∃ lib lib', loaded.loadFile f p = .ok lib ∧ loaded.loadFile f q = .ok lib' ∧
        lib.entry = lib'.entry) ∨
      ∃ e e', loaded.loadFile f p = .error e ∧ loaded.loadFile f q = .error e' := by
  unfold loadFile
  rw [← hslash, h.byPath?_or_byFile? hp, h.byPath?_or_byFile? hq]
  cases p.hasSlash with
  | false => exact .inr ⟨_, _, rfl, rfl⟩
  | true =>
    cases loaded.byFile? f.id with
    | some lib => exact .inl ⟨lib, lib, rfl, rfl, rfl⟩
    | none =>
      unfold mapFile
      cases f.content with
      | library entry => exact .inl ⟨_, _, rfl, rfl, rfl⟩
      | data bytes => exact .inr ⟨_, _, rfl, rfl⟩

/-- A library that was just loaded is the one that its file calls. -/
theorem returns?_of_loadFile (h : loaded.MapsOnce) (k : Key) {p : Path} {f : RegularFile}
    {lib : Library} (hl : loaded.loadFile f p = .ok lib) :
    (loaded.insert k p lib).returns? lib.file = lib.entry.returns? :=
  (h.insert_of_loadFile k hl).returns?_of_mem (loaded.mem_insert k p lib)

end MapsOnce

end Loaded

theorem Key.of_canonical? {files : FileTree} {p : Path} {l : Location}
    (h : files.canonical? p = some l) : Key.of files p = ⟨true, false, l⟩ := by
  unfold Key.of
  rw [h]

/-- Two paths with one canonical place open alike if a library is kept for the place, and else if
the loader sees no difference between them. -/
theorem openLibrary_endAlike {s : Session} (hs : s.Reachable) {p q : Path} {f g : RegularFile}
    {l : Location} (hf : s.world.files.regularFile? p = some f)
    (hg : s.world.files.regularFile? q = some g) (hp : s.world.files.canonical? p = some l)
    (hq : s.world.files.canonical? q = some l)
    (h : (s.world.loaded.at? (.of s.world.files p)).isSome = true ∨
      p.hasSlash = q.hasSlash ∧ s.world.loaded.Settled s.world.files p ∧
        s.world.loaded.Settled s.world.files q) :
    EndAlike (s.world.openLibrary p) (s.world.openLibrary q) := by
  obtain rfl : f = g := FileTree.regularFile?_unique hf hg hp hq
  have hkey : Key.of s.world.files q = .of s.world.files p := by
    rw [Key.of_canonical? hp, Key.of_canonical? hq]
  unfold World.openLibrary
  cases hk : s.world.loaded.at? (.of s.world.files p) with
  | some lib =>
    rw [Loaded.openPath_of_kept hf hk, Loaded.openPath_of_kept hg (hkey ▸ hk)]
    have hcall := hs.mapsOnce.returns?_of_mem (Loaded.mem_of_at? hk)
    exact LibraryGrammar.endAlike_ofLibrary p q rfl hcall hcall
  | none =>
    obtain ⟨hslash, hsp, hsq⟩ : p.hasSlash = q.hasSlash ∧ _ ∧ _ := by simpa [hk] using h
    have hknown : ∀ lib ∈ s.world.loaded.byPath? p, lib.file = f.id := by
      intro lib hlib
      exact hsp lib hlib f hf
    have hknown' : ∀ lib ∈ s.world.loaded.byPath? q, lib.file = f.id := by
      intro lib hlib
      exact hsq lib hlib f hg
    rcases hs.mapsOnce.loadFile_alike hslash hknown hknown' with
      ⟨lib, lib', hl, hl', hentry⟩ | ⟨e, e', hl, hl'⟩
    · rw [Loaded.openPath_of_loadFile hf hk hl, Loaded.openPath_of_loadFile hg (hkey ▸ hk) hl']
      exact LibraryGrammar.endAlike_ofLibrary p q hentry (hs.mapsOnce.returns?_of_loadFile _ hl)
        (hs.mapsOnce.returns?_of_loadFile _ hl')
    · rw [Loaded.openPath_of_refused hf hk hl, Loaded.openPath_of_refused hg (hkey ▸ hk) hl']
      exact rfl

/-- A library is opened, and its file gets another name. -/
def renamed : List Step := [
  .changeFiles (.write (.ofText "/r/x.so") (.library (.language 14))),
  .openLibrary (.ofText "./x.so") "main",
  .changeFiles (.rename (.ofText "/r/x.so") (.ofText "/r/y.so"))]

theorem openLibrary_endAlike_renamed :
    EndAlike ((worldAfter renamed).openLibrary (.ofText "./y.so"))
      ((worldAfter renamed).openLibrary (.ofText "/r/y.so")) :=
  openLibrary_endAlike (s := (Session.fresh emptyWorld).afterAll renamed)
    (f := ⟨3, .library (.language 14)⟩) (g := ⟨3, .library (.language 14)⟩)
    (l := [utf8 "r", utf8 "y.so"]) ⟨emptyWorld, renamed, rfl⟩ (by decide +kernel)
    (by decide +kernel) (by decide +kernel) (by decide +kernel) (.inr (by decide +kernel))

/-- A library in the working directory. -/
def bare : List Step := [.changeFiles (.write (.ofText "/r/x.so") (.library (.language 14)))]

/-- The loader does not take a bare name for a file, and it goes by a path it knows wherever the
path leads now. Both tell apart two paths with one canonical place. -/
theorem openLibrary_tells_spellings_apart :
    (worldAfter bare).files.isFile (.ofText "x.so") = true ∧
      (worldAfter bare).files.isFile (.ofText "./x.so") = true ∧
      (worldAfter bare).files.canonical? (.ofText "x.so") = some [utf8 "r", utf8 "x.so"] ∧
      (worldAfter bare).files.canonical? (.ofText "./x.so") = some [utf8 "r", utf8 "x.so"] ∧
      ¬ EndAlike ((worldAfter bare).openLibrary (.ofText "x.so"))
        ((worldAfter bare).openLibrary (.ofText "./x.so")) ∧
      (worldAfter (movedAway (.language 13) (.language 14))).files.isFile
        (.ofText "/r/a/x.so") = true ∧
      (worldAfter (movedAway (.language 13) (.language 14))).files.isFile
        (.ofText "/r/c/x.so") = true ∧
      (worldAfter (movedAway (.language 13) (.language 14))).files.canonical?
        (.ofText "/r/a/x.so") = some [utf8 "r", utf8 "c", utf8 "x.so"] ∧
      (worldAfter (movedAway (.language 13) (.language 14))).files.canonical?
        (.ofText "/r/c/x.so") = some [utf8 "r", utf8 "c", utf8 "x.so"] ∧
      ¬ EndAlike
        ((worldAfter (movedAway (.language 13) (.language 14))).openLibrary
          (.ofText "/r/a/x.so"))
        ((worldAfter (movedAway (.language 13) (.language 14))).openLibrary
          (.ofText "/r/c/x.so")) := by
  decide +kernel

end GrammarLoad
