import GrammarLoad.Proofs.Opening

/-!
What a file holds. No change of a tree gives a file other content: writing a path again makes a new
node, and a file that is moved or removed keeps its number. So a number stands for one content for
good, and a library that is loaded is what the file holds that it was mapped from, even when no name
leads to that file any more.
-/
namespace GrammarLoad

namespace FileTree

/-- Every file of the first tree is in the second one, with its number and its content. -/
def Keeps (t u : FileTree) : Prop :=
  ∀ id content, t.node? id = some (.file content) → u.node? id = some (.file content)

theorem Keeps.refl (t : FileTree) : t.Keeps t := fun _ _ h => h

theorem Keeps.trans {t u v : FileTree} (h : t.Keeps u) (h' : u.Keeps v) : t.Keeps v :=
  fun id content hfile => h' id content (h id content hfile)

theorem node?_of_directory? {t : FileTree} {id : NodeId} {d : Directory}
    (h : t.directory? id = some d) : t.node? id = some (.dir d) := by
  unfold directory? at h
  split at h
  · next hn =>
    obtain rfl := Option.some.inj h
    exact hn
  · cases h

theorem keeps_modifyDir (t : FileTree) (id : NodeId) (f : Directory → Directory) :
    t.Keeps (t.modifyDir id f) := by
  unfold modifyDir
  split
  · next d hd =>
    intro k content hfile
    have hne : id ≠ k := by
      rintro rfl
      rw [node?_of_directory? hd] at hfile
      cases hfile
    unfold node? at hfile ⊢
    rw [Array.getElem?_setIfInBounds_ne hne]
    exact hfile
  · exact .refl t

theorem keeps_takeAway (t : FileTree) (id : NodeId) : t.Keeps (t.takeAway id) := by
  unfold takeAway
  split
  · exact .refl t
  · intro k content hfile
    unfold node? at hfile ⊢
    rw [Array.getElem?_mapIdx, hfile]
    rfl

theorem keeps_clear (t : FileTree) (place : Place) : t.Keeps (t.clear place) := by
  unfold clear
  split
  · exact .refl t
  · exact (t.keeps_takeAway _).trans (keeps_modifyDir _ _ _)

theorem keeps_put (t : FileTree) (place : Place) (id : NodeId) : t.Keeps (t.put place id) := by
  have hclear := t.keeps_clear place
  have hentered := hclear.trans (keeps_modifyDir _ place.dir (·.put place.name id))
  unfold put
  exact hentered.trans (keeps_modifyDir _ _ _)

theorem keeps_add (t : FileTree) (place : Place) (node : Node) : t.Keeps (t.add place node) := by
  have hpush : t.Keeps { t with nodes := t.nodes.push node } := by
    intro k content hfile
    unfold node? at hfile ⊢
    obtain ⟨hk, -⟩ := Array.getElem?_eq_some_iff.mp hfile
    rw [Array.getElem?_push_lt hk, ← hfile]
    exact (Array.getElem?_eq_getElem hk).symm
  exact hpush.trans (keeps_put _ place _)

theorem keeps_makeDirs (t : FileTree) (dir : NodeId) (names : List Name) :
    t.Keeps (t.makeDirs dir names) := by
  induction names generalizing t dir with
  | nil => exact .refl t
  | cons n rest ih =>
    unfold makeDirs
    split
    · exact ih _ _
    · exact .refl t
    · split
      · exact (t.keeps_add _ _).trans (ih _ _)
      · exact .refl t

theorem keeps_makeParents (t : FileTree) (p : Path) : t.Keeps (t.makeParents p) :=
  t.keeps_makeDirs _ _

theorem keeps_create (t : FileTree) (p : Path) (node : Node) : t.Keeps (t.create p node) := by
  unfold create
  dsimp only
  split
  · exact .refl t
  · exact (t.keeps_makeParents p).trans (keeps_add _ _ _)

theorem keeps_move? {t u : FileTree} {a b : Place} (h : t.move? a b = some u) : t.Keeps u := by
  unfold move? at h
  split at h
  · cases h
  · split at h
    · obtain rfl := Option.some.inj h
      exact .refl t
    · split at h
      · cases h
      · obtain rfl := Option.some.inj h
        exact (t.keeps_modifyDir _ _).trans (keeps_put _ _ _)

theorem keeps_rename (t : FileTree) (p q : Path) : t.Keeps (t.rename p q) := by
  unfold rename
  dsimp only
  split
  · next a b _ _ =>
    cases hm : (t.makeParents q).move? a b with
    | none => exact .refl t
    | some u => exact (t.keeps_makeParents q).trans (keeps_move? hm)
  · exact .refl t

theorem keeps_remove (t : FileTree) (p : Path) : t.Keeps (t.remove p) := by
  unfold remove
  split
  · exact .refl t
  · exact t.keeps_clear _

theorem keeps_hardLink (t : FileTree) (p existing : Path) : t.Keeps (t.hardLink p existing) := by
  unfold hardLink
  dsimp only
  split
  · split
    · exact .refl t
    · exact (t.keeps_makeParents p).trans (keeps_put _ _ _)
  · exact .refl t

/-- No change of the tree changes what a file holds. -/
theorem keeps_apply (t : FileTree) (change : Change) : t.Keeps (t.apply change) := by
  cases change with
  | makeDir p => exact t.keeps_makeDirs _ _
  | write p content => exact t.keeps_create p _
  | link p target => exact t.keeps_create p _
  | rename p q => exact t.keeps_rename p q
  | remove p => exact t.keeps_remove p
  | hardLink p existing => exact t.keeps_hardLink p existing

end FileTree

namespace Loaded

variable {loaded : Loaded}

/-- Every library is what the file holds that it was mapped from. -/
def MappedFrom (loaded : Loaded) (files : FileTree) : Prop :=
  ∀ a ∈ loaded.loadings,
    files.node? a.library.file = some (.file (.library a.library.entry))

namespace MappedFrom

variable {files : FileTree}

theorem keeps (h : loaded.MappedFrom files) {after : FileTree} (hk : files.Keeps after) :
    loaded.MappedFrom after :=
  fun a ha => hk _ _ (h a ha)

theorem openPath (h : loaded.MappedFrom files) (p : Path) :
    (loaded.openPath files p).2.MappedFrom files := by
  rcases loaded.after_openPath files p with ho | ⟨f, lib, hf, -, hl, ho⟩
  · rw [ho]
    exact h
  · rw [ho]
    intro a ha
    rcases List.mem_append.mp ha with hold | hnew
    · exact h a hold
    · obtain rfl := List.mem_singleton.mp hnew
      rcases loadFile_rules.eq_ok hl with ⟨b, hb, rfl⟩ | ⟨-, hid, hc⟩
      · exact h b hb
      · rw [hid, ← hc]
        exact FileTree.content_of_regularFile? hf

theorem replay (h : loaded.MappedFrom files) {os : List Opening}
    (ho : ∀ o ∈ os, o.files = files) : (loaded.replay os).MappedFrom files := by
  refine replay_preserves (P := (·.MappedFrom files)) ?_ h
  intro o hmem now hnow
  rw [ho o hmem]
  exact openPath hnow o.path

/-- A library that exports the language function is opened by a path with a slash, unless the loader
has another one for it that does not. -/
theorem openPath_isOk_iff (h : loaded.MappedFrom files) {p : Path} {f : RegularFile}
    {entry : EntryPoint} (hf : files.regularFile? p = some f) (hc : f.content = .library entry)
    (hentry : entry ≠ .missing) (hslash : p.hasSlash = true) :
    (∃ g, (loaded.openPath files p).1 = .ok g) ↔
      ∀ lib ∈ (loaded.at? (.of files p)).or (loaded.byPath? p), lib.entry ≠ .missing := by
  cases hk : loaded.at? (.of files p) with
  | some lib =>
    rw [openPath_of_kept hf hk, LibraryGrammar.ofLibrary_isOk_iff]
    simp
  | none =>
    rw [Option.none_or]
    rcases loadFile_rules.cases loaded f p with ⟨hbare, -⟩ | ⟨-, ⟨lib, hpath, hl⟩ | ⟨hpath,
      ⟨lib, hid, hl⟩ | ⟨-, ⟨entry', hc', hl⟩ | ⟨bytes, hc', -⟩⟩⟩⟩
    · rw [hslash] at hbare
      cases hbare
    · rw [openPath_of_loadFile hf hk hl, LibraryGrammar.ofLibrary_isOk_iff, hpath]
      simp
    · obtain ⟨a, ha, rfl, hfile⟩ := mem_of_byFile? hid
      have hnode := h a ha
      rw [hfile, FileTree.content_of_regularFile? hf, hc] at hnode
      obtain rfl : entry = a.library.entry := by simpa using hnode
      rw [openPath_of_loadFile hf hk hl, hpath]
      exact iff_of_true (LibraryGrammar.ofLibrary_isOk_iff.mpr hentry) nofun
    · obtain rfl : entry = entry' := by simpa [hc] using hc'
      rw [openPath_of_loadFile hf hk hl, hpath]
      exact iff_of_true (LibraryGrammar.ofLibrary_isOk_iff.mpr hentry) nofun
    · rw [hc] at hc'
      cases hc'

end MappedFrom

end Loaded

theorem World.files_openings {w : World} {b : Binding} {o : Opening} (h : o ∈ w.openings b) :
    o.files = w.files := by
  cases b with
  | linked => cases h
  | library p =>
    obtain rfl := List.mem_singleton.mp h
    rfl

namespace Scene

theorem files_openingsOfSource {c : Scene} {source : Source} {o : Opening}
    (h : o ∈ c.openingsOfSource source) : o.files = c.files := by
  induction source with
  | binding b => exact World.files_openings h
  | through source ih => exact ih h
  | _ => cases h

theorem files_openingsOf {c : Scene} {step : Step} {o : Opening} (h : o ∈ c.openingsOf step) :
    o.files = c.files := by
  cases step with
  | provide b other => exact World.files_openings h
  | openLibrary p slot =>
    obtain rfl := List.mem_singleton.mp h
    rfl
  | ask source => exact files_openingsOfSource h
  | check source => exact files_openingsOfSource h
  | assertLoads source => exact files_openingsOfSource h
  | runCheck name source =>
    have hrun : o ∈ if c.hasRun name then c.openingsOfSource source else [] := h
    split at hrun
    · exact files_openingsOfSource hrun
    · cases hrun
  | configuredRun name recorder =>
    have hrun : o ∈ c.world.configuredOpenings := h
    unfold World.configuredOpenings at hrun
    split at hrun
    · exact World.files_openings hrun
    · cases hrun
  | _ => cases h

theorem keeps_step (c : Scene) (step : Step) : c.files.Keeps (c.step step).files := by
  cases step with
  | changeFiles change => exact c.files.keeps_apply change
  | _ => exact .refl c.files

end Scene

namespace Session

theorem mappedFrom_step {s : Session} (h : s.world.loaded.MappedFrom s.world.files) (step : Step) :
    (s.step step).after.world.loaded.MappedFrom (s.step step).after.world.files := by
  obtain ⟨hscene, hloaded⟩ := s.leaves_step step
  have hfiles : (s.step step).after.world.files = (s.scene.step step).files :=
    congrArg Scene.files hscene
  have hopened : (s.world.loaded.replay (s.scene.openingsOf step)).MappedFrom s.world.files := by
    apply h.replay
    intro o ho
    exact Scene.files_openingsOf ho
  have hkeeps : s.world.files.Keeps (s.scene.step step).files := s.scene.keeps_step step
  rw [hloaded, hfiles]
  exact hopened.keeps hkeeps

/-- Loaded libraries stay what their files hold, through openings and changes of the files. -/
theorem Reachable.mappedFrom {s : Session} (h : s.Reachable) :
    s.world.loaded.MappedFrom s.world.files := by
  refine Reachable.induction (P := fun t => t.world.loaded.MappedFrom t.world.files) ?_ ?_ h
  · intro w a ha
    exact (List.not_mem_nil ha).elim
  · intro t step _ hmapped
    exact mappedFrom_step hmapped step

end Session

end GrammarLoad
