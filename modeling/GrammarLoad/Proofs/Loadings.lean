import GrammarLoad.Proofs.Opening

/-!
Loaded libraries stay loaded. Libraries are only ever added to those that are there, and every file
is mapped once. So the file of a library names it for good, and a call of its language function
returns what the library held when it was loaded.
-/
namespace GrammarLoad

namespace Loaded

/-- Everything that is loaded now is loaded later, in the same order. -/
def GrowsTo (now later : Loaded) : Prop := now.loadings <+: later.loadings

namespace GrowsTo

variable {now later : Loaded}

theorem refl (loaded : Loaded) : loaded.GrowsTo loaded := List.prefix_refl _

theorem trans {last : Loaded} (h : now.GrowsTo later) (h' : later.GrowsTo last) :
    now.GrowsTo last :=
  List.IsPrefix.trans h h'

theorem openPath (loaded : Loaded) (files : FileTree) (p : Path) :
    loaded.GrowsTo (loaded.openPath files p).2 := by
  rcases loaded.after_openPath files p with ho | ⟨f, lib, -, -, -, ho⟩
  · rw [ho]
    exact refl loaded
  · rw [ho]
    exact List.prefix_append _ _

theorem replay (loaded : Loaded) (os : List Opening) : loaded.GrowsTo (loaded.replay os) := by
  refine replay_preserves (P := loaded.GrowsTo) ?_ (refl loaded)
  intro o _ between hbetween
  exact hbetween.trans (openPath between o.files o.path)

/-- What was the first of its kind is the first one still. -/
theorem find? (h : now.GrowsTo later) {q : Loading → Bool} {lib : Library}
    (hq : (now.loadings.find? q).map (·.library) = some lib) :
    (later.loadings.find? q).map (·.library) = some lib := by
  obtain ⟨a, ha, rfl⟩ := Option.map_eq_some_iff.mp hq
  exact Option.map_eq_some_iff.mpr ⟨a, List.IsPrefix.find?_eq_some h ha, rfl⟩

theorem at? (h : now.GrowsTo later) {k : Key} {lib : Library} (hk : now.at? k = some lib) :
    later.at? k = some lib :=
  h.find? hk

theorem byFile? (h : now.GrowsTo later) {file : NodeId} {lib : Library}
    (hfile : now.byFile? file = some lib) : later.byFile? file = some lib :=
  h.find? hfile

theorem returns? (h : now.GrowsTo later) {file : NodeId} {language : Option Language}
    (hcall : now.returns? file = some language) : later.returns? file = some language := by
  obtain ⟨lib, hlib, hentry⟩ := Option.bind_eq_some_iff.mp hcall
  exact Option.bind_eq_some_iff.mpr ⟨lib, h.byFile? hlib, hentry⟩

end GrowsTo

/-- Every file is mapped once: what came of the same file is the same library. -/
def MapsOnce (loaded : Loaded) : Prop :=
  ∀ a ∈ loaded.loadings, ∀ b ∈ loaded.loadings, a.library.file = b.library.file →
    a.library = b.library

variable {loaded : Loaded} {files : FileTree} {p : Path}

namespace MapsOnce

theorem empty : MapsOnce .empty := fun _ ha => (List.not_mem_nil ha).elim

theorem insert (h : loaded.MapsOnce) (k : Key) (p : Path) {lib : Library}
    (hlib : ∀ a ∈ loaded.loadings, a.library.file = lib.file → a.library = lib) :
    (loaded.insert k p lib).MapsOnce := by
  intro a ha b hb hfile
  rcases List.mem_append.mp ha with hold | hnew
  · rcases List.mem_append.mp hb with hold' | hnew'
    · exact h a hold b hold' hfile
    · obtain rfl := List.mem_singleton.mp hnew'
      exact hlib a hold hfile
  · obtain rfl := List.mem_singleton.mp hnew
    rcases List.mem_append.mp hb with hold' | hnew'
    · exact (hlib b hold' hfile.symm).symm
    · obtain rfl := List.mem_singleton.mp hnew'
      rfl

/-- What the loader gives is mapped once with the rest. -/
theorem insert_of_loadFile (h : loaded.MapsOnce) (k : Key) {f : RegularFile} {lib : Library}
    (hl : loaded.loadFile f p = .ok lib) : (loaded.insert k p lib).MapsOnce := by
  apply h.insert
  intro a ha hfile
  rcases loadFile_rules.eq_ok hl with ⟨b, hb, rfl⟩ | ⟨hnone, hid, -⟩
  · exact h a ha b hb hfile
  · exact absurd (hfile.trans hid) (ne_of_byFile?_eq_none hnone ha)

theorem openPath (h : loaded.MapsOnce) (files : FileTree) (p : Path) :
    (loaded.openPath files p).2.MapsOnce := by
  rcases loaded.after_openPath files p with ho | ⟨f, lib, -, -, hl, ho⟩
  · rw [ho]
    exact h
  · rw [ho]
    exact h.insert_of_loadFile _ hl

theorem replay (h : loaded.MapsOnce) (os : List Opening) : (loaded.replay os).MapsOnce := by
  refine replay_preserves (P := MapsOnce) ?_ h
  intro o _ now hnow
  exact openPath hnow o.files o.path

/-- The file names the library that was mapped from it. -/
theorem byFile?_of_mem (h : loaded.MapsOnce) {a : Loading} (ha : a ∈ loaded.loadings) :
    loaded.byFile? a.library.file = some a.library := by
  obtain ⟨lib, hfile⟩ := Option.isSome_iff_exists.mp (byFile?_isSome_of_mem ha)
  obtain ⟨b, hb, rfl, hid⟩ := mem_of_byFile? hfile
  rw [hfile, h b hb a ha hid]

/-- A loaded library is what is called by its file. -/
theorem returns?_of_mem (h : loaded.MapsOnce) {lib : Library}
    (hlib : ∃ a ∈ loaded.loadings, a.library = lib) :
    loaded.returns? lib.file = lib.entry.returns? := by
  obtain ⟨a, ha, rfl⟩ := hlib
  unfold returns?
  rw [h.byFile?_of_mem ha]
  rfl

end MapsOnce

theorem mem_insert (loaded : Loaded) (k : Key) (p : Path) (lib : Library) :
    ∃ a ∈ (loaded.insert k p lib).loadings, a.library = lib :=
  ⟨⟨k, p, lib⟩, List.mem_append_right _ (List.mem_singleton.mpr rfl), rfl⟩

/-- A grammar is taken from a library that is loaded once the opening is over. -/
theorem library_of_openPath {g : LibraryGrammar} (hg : (loaded.openPath files p).1 = .ok g) :
    ∃ lib, LibraryGrammar.ofLibrary p lib = .ok g ∧
      ∃ a ∈ (loaded.openPath files p).2.loadings, a.library = lib := by
  rcases loaded.openPath_cases files p with
    ⟨-, ho⟩ | ⟨f, -, ⟨lib, hk, ho⟩ | ⟨lib, -, -, ho⟩ | ⟨e, -, -, ho⟩⟩ <;> rw [ho] at hg ⊢
  · cases hg
  · exact ⟨lib, hg, mem_of_at? hk⟩
  · exact ⟨lib, hg, loaded.mem_insert _ p lib⟩
  · cases hg

/-- A grammar that was just opened has a language function to call. -/
theorem MapsOnce.returns?_of_openPath (h : loaded.MapsOnce) {g : LibraryGrammar}
    (hg : (loaded.openPath files p).1 = .ok g) :
    ∃ language, (loaded.openPath files p).2.returns? g.file = some language := by
  obtain ⟨lib, htaken, hlib⟩ := library_of_openPath hg
  obtain ⟨hentry, rfl⟩ := LibraryGrammar.ofLibrary_eq_ok_iff.mp htaken
  rw [(h.openPath files p).returns?_of_mem hlib]
  exact Option.ne_none_iff_exists'.mp (mt EntryPoint.returns?_eq_none_iff.mp hentry)

end Loaded

namespace Session

theorem growsTo_afterAll (s : Session) (steps : List Step) :
    s.world.loaded.GrowsTo (s.afterAll steps).world.loaded := by
  rw [loaded_afterAll]
  exact Loaded.GrowsTo.replay _ _

theorem growsTo_step (s : Session) (step : Step) :
    s.world.loaded.GrowsTo (s.step step).after.world.loaded :=
  s.growsTo_afterAll [step]

theorem Reachable.mapsOnce {s : Session} (h : s.Reachable) : s.world.loaded.MapsOnce := by
  obtain ⟨w, steps, rfl⟩ := h
  rw [loaded_afterAll]
  exact Loaded.MapsOnce.empty.replay _

end Session

end GrammarLoad
