import GrammarLoad.Proofs.Loadings

/-!
What an opening comes to, told from the openings before it and not from what is kept. An opening
goes by the files as they are when it is made, by the libraries that earlier openings got hold of,
and by the paths that the loader was asked for. Keeping libraries under their canonical place gives
the same outcome after every session, and the library that an opening comes to is the one that is
called.
-/
namespace GrammarLoad

/-- A library that an opening got hold of. Unless the library was there for the same place before,
the loader was asked for it and knows the path from then on. -/
structure Acquisition where
  opening : Opening
  library : Library
  asked : Bool

namespace Opening

/-- What an opening gets hold of after the acquisitions of the past, oldest first. -/
def acquire (past : List Acquisition) (o : Opening) : Except ProviderError Acquisition :=
  match o.files.regularFile? o.path with
  | none => .error (.notFound [o.path])
  | some f =>
    match past.find? (·.opening.key == o.key) with
    | some a => .ok ⟨o, a.library, false⟩
    | none =>
      if o.path.hasSlash = false then .error (.load o.path (.cannotOpen o.path))
      else match past.find? (fun a => a.asked && a.opening.path == o.path) with
        | some a => .ok ⟨o, a.library, true⟩
        | none =>
          match past.find? (·.library.file == f.id) with
          | some a => .ok ⟨o, a.library, true⟩
          | none =>
            match f.content with
            | .library entry => .ok ⟨o, ⟨f.id, o.path, entry⟩, true⟩
            | .data bytes => .error (.load o.path
                (if bytes.length < headerSize then .tooShort o.path else .notALibrary o.path))

/-- The grammar or the error that an opening ends in. -/
def outcome (past : List Acquisition) (o : Opening) : Except ProviderError LibraryGrammar :=
  match o.acquire past with
  | .ok a => LibraryGrammar.ofLibrary o.path a.library
  | .error e => .error e

/-- The acquisitions after one more opening. A failure to get hold of a library is not one. -/
def remember (past : List Acquisition) (o : Opening) : List Acquisition :=
  match o.acquire past with
  | .ok a => past ++ [a]
  | .error _ => past

end Opening

/-- All acquisitions of some openings, oldest first. -/
def acquisitions (os : List Opening) : List Acquisition := os.foldl Opening.remember []

/-- What is kept answers every question as the acquisitions of the past do. -/
structure Recalls (past : List Acquisition) (loaded : Loaded) : Prop where
  at? : ∀ k, loaded.at? k = (past.find? (·.opening.key == k)).map (·.library)
  byPath? : ∀ p, loaded.byPath? p =
    (past.find? fun a => a.asked && a.opening.path == p).map (·.library)
  byFile? : ∀ id, loaded.byFile? id = (past.find? (·.library.file == id)).map (·.library)

namespace Recalls

variable {past : List Acquisition} {loaded : Loaded}

theorem empty : Recalls [] .empty := ⟨fun _ => rfl, fun _ => rfl, fun _ => rfl⟩

/-- A library that is there for the place already is acquired again, and nothing more is kept. -/
theorem append_kept (h : Recalls past loaded) {o : Opening} {a : Acquisition}
    (ha : past.find? (·.opening.key == o.key) = some a) :
    Recalls (past ++ [⟨o, a.library, false⟩]) loaded := by
  refine ⟨?_, ?_, ?_⟩
  · intro k
    rw [h.at? k, List.find?_append]
    by_cases hk : o.key = k
    · subst k
      simp [ha]
    · simp [hk]
  · intro p
    rw [h.byPath? p, List.find?_append]
    simp
  · intro id
    rw [h.byFile? id, List.find?_append]
    by_cases hid : a.library.file = id
    · have hsome : (past.find? (·.library.file == id)).isSome = true := by
        rw [List.find?_isSome]
        exact ⟨a, List.mem_of_find?_eq_some ha, by simp [hid]⟩
      obtain ⟨b, hb⟩ := Option.isSome_iff_exists.mp hsome
      simp [hb]
    · simp [hid]

/-- What the loader gave is kept with the place and the path. -/
theorem append_asked (h : Recalls past loaded) (o : Opening) (lib : Library) :
    Recalls (past ++ [⟨o, lib, true⟩]) (loaded.insert o.key o.path lib) := by
  refine ⟨?_, ?_, ?_⟩
  · intro k
    rw [Loaded.at?_insert, h.at? k, List.find?_append]
    by_cases hk : o.key = k <;> cases past.find? (·.opening.key == k) <;> simp [hk]
  · intro p
    rw [Loaded.byPath?_insert, h.byPath? p, List.find?_append]
    by_cases hp : o.path = p <;>
      cases past.find? (fun a => a.asked && a.opening.path == p) <;> simp [hp]
  · intro id
    rw [Loaded.byFile?_insert, h.byFile? id, List.find?_append]
    by_cases hid : lib.file = id <;> cases past.find? (·.library.file == id) <;> simp [hid]

/-- Where nothing is kept for the place, the past tells what the loader does. -/
theorem acquire_eq_loadFile (h : Recalls past loaded) {o : Opening} {f : RegularFile}
    (hf : o.files.regularFile? o.path = some f) (hk : loaded.at? o.key = none) :
    o.acquire past = match loaded.loadFile f o.path with
      | .ok lib => .ok ⟨o, lib, true⟩
      | .error e => .error (.load o.path e) := by
  have hplace : past.find? (·.opening.key == o.key) = none := by
    rw [h.at? o.key] at hk
    exact Option.map_eq_none_iff.mp hk
  have hpath := h.byPath? o.path
  have hfile := h.byFile? f.id
  unfold Opening.acquire
  rw [hf]
  simp only [hplace]
  rcases Loaded.loadFile_rules.cases loaded f o.path with ⟨hslash, hl⟩ | ⟨hslash,
    ⟨lib, hknown, hl⟩ | ⟨hnew, ⟨lib, hmapped, hl⟩ | ⟨hunmapped, ⟨entry, hc, hl⟩ | ⟨bytes, hc, hl⟩⟩⟩⟩
  · rw [hl, if_pos hslash]
  · obtain ⟨a, ha, rfl⟩ := Option.map_eq_some_iff.mp (hpath.symm.trans hknown)
    rw [hl, if_neg (by simp [hslash]), ha]
  · have hasked := Option.map_eq_none_iff.mp (hpath.symm.trans hnew)
    obtain ⟨a, ha, rfl⟩ := Option.map_eq_some_iff.mp (hfile.symm.trans hmapped)
    rw [hl, if_neg (by simp [hslash]), hasked, ha]
  · have hasked := Option.map_eq_none_iff.mp (hpath.symm.trans hnew)
    have hnone := Option.map_eq_none_iff.mp (hfile.symm.trans hunmapped)
    rw [hl, if_neg (by simp [hslash]), hasked, hnone, hc]
  · have hasked := Option.map_eq_none_iff.mp (hpath.symm.trans hnew)
    have hnone := Option.map_eq_none_iff.mp (hfile.symm.trans hunmapped)
    rw [hl, if_neg (by simp [hslash]), hasked, hnone, hc]

/-- One opening ends as the past tells, the library that it gets hold of is kept for its place, and
the past with it is recalled from then on. -/
theorem openPath (h : Recalls past loaded) (o : Opening) :
    (loaded.openPath o.files o.path).1 = o.outcome past ∧
      (∀ a, o.acquire past = .ok a →
        (loaded.openPath o.files o.path).2.at? o.key = some a.library) ∧
      Recalls (o.remember past) (loaded.openPath o.files o.path).2 := by
  unfold Opening.outcome Opening.remember
  rcases loaded.openPath_cases o.files o.path with
    ⟨hf, ho⟩ | ⟨f, hf, ⟨lib, hk, ho⟩ | ⟨lib, hk, hl, ho⟩ | ⟨e, hk, hl, ho⟩⟩
  · have hacquire : o.acquire past = .error (.notFound [o.path]) := by
      unfold Opening.acquire
      rw [hf]
    rw [ho, hacquire]
    exact ⟨rfl, nofun, h⟩
  · have hlib := h.at? o.key
    rw [show loaded.at? o.key = some lib from hk] at hlib
    obtain ⟨a, ha, rfl⟩ := Option.map_eq_some_iff.mp hlib.symm
    have hacquire : o.acquire past = .ok ⟨o, a.library, false⟩ := by
      unfold Opening.acquire
      rw [hf]
      simp only [ha]
    rw [ho, hacquire]
    refine ⟨rfl, ?_, h.append_kept ha⟩
    rintro b ⟨⟩
    exact hk
  · have hacquire := h.acquire_eq_loadFile hf hk
    rw [hl] at hacquire
    rw [ho, hacquire]
    refine ⟨rfl, ?_, h.append_asked o lib⟩
    rintro b ⟨⟩
    exact Loaded.at?_insert_self o.path hk
  · have hacquire := h.acquire_eq_loadFile hf hk
    rw [hl] at hacquire
    rw [ho, hacquire]
    exact ⟨rfl, nofun, h⟩

theorem replay (h : Recalls past loaded) (os : List Opening) :
    Recalls (os.foldl Opening.remember past) (loaded.replay os) := by
  induction os generalizing past loaded with
  | nil => exact h
  | cons o rest ih => exact ih (h.openPath o).2.2

end Recalls

namespace Scene

/-- The scene of a session that begins in a world. -/
def fresh (w : World) : Scene := (Session.fresh w).scene

/-- All that the openings of some steps get hold of. -/
def past (c : Scene) (steps : List Step) : List Acquisition := acquisitions (c.openings steps)

/-- An opening after some steps. -/
def opening (c : Scene) (steps : List Step) (p : Path) : Opening := ⟨(c.afterAll steps).files, p⟩

end Scene

/-- After every session, what is kept recalls the acquisitions of its openings. -/
theorem recalls_afterAll (w : World) (steps : List Step) :
    Recalls ((Scene.fresh w).past steps) ((Session.fresh w).afterAll steps).world.loaded := by
  rw [Session.loaded_afterAll]
  exact Recalls.empty.replay _

/-- An opening at the end of a session ends as the openings before it tell, by the files as they are
then. It succeeds exactly if the library it gets hold of exports the language function, and it is
the function of that library that is called. -/
theorem openLibrary_eq_outcome (w : World) (steps : List Step) (p : Path) :
    (((Session.fresh w).afterAll steps).world.openLibrary p).1 =
        ((Scene.fresh w).opening steps p).outcome ((Scene.fresh w).past steps) ∧
      ((∃ g, (((Session.fresh w).afterAll steps).world.openLibrary p).1 = .ok g) ↔
        ∃ a, ((Scene.fresh w).opening steps p).acquire ((Scene.fresh w).past steps) = .ok a ∧
          a.library.entry ≠ .missing) ∧
      ∀ a, ((Scene.fresh w).opening steps p).acquire ((Scene.fresh w).past steps) = .ok a →
        (((Session.fresh w).afterAll steps).world.openLibrary p).2.loaded.returns?
            a.library.file =
          a.library.entry.returns? := by
  have hfiles : ((Session.fresh w).afterAll steps).world.files =
      ((Scene.fresh w).afterAll steps).files :=
    congrArg Scene.files (Session.scene_afterAll (Session.fresh w) steps)
  obtain ⟨hend, hkept, -⟩ := (recalls_afterAll w steps).openPath ((Scene.fresh w).opening steps p)
  simp only [Scene.opening, ← hfiles] at hend hkept ⊢
  refine ⟨hend, ?_, ?_⟩
  · rw [show (((Session.fresh w).afterAll steps).world.openLibrary p).1 = _ from hend]
    unfold Opening.outcome
    cases Opening.acquire ((Scene.fresh w).past steps) _ with
    | error e => simp
    | ok a => exact LibraryGrammar.ofLibrary_isOk_iff.trans (by simp)
  · intro a ha
    have hloaded : ((Session.fresh w).afterAll steps).world.loaded.MapsOnce :=
      Session.Reachable.mapsOnce ⟨w, steps, rfl⟩
    exact (hloaded.openPath _ p).returns?_of_mem (Loaded.mem_of_at? (hkept a ha))

/-- The language that an opening comes to. -/
def World.languageAt? (w : World) (p : Path) : Option Language :=
  (w.openLibrary p).1.toOption.bind (·.language (w.openLibrary p).2.loaded)

/-- A library is opened by a relative path while the working directory is not in the tree, so that
no canonical path can be told, and the file is replaced then. -/
def cutOff : List Step := [
  .changeFiles (.write (.ofText "/d/x.so") (.library (.language 13))),
  .changeFiles (.remove (.ofText "/r")),
  .openLibrary (.ofText "../d/x.so") "main",
  .changeFiles (.write (.ofText "/d/x.so") (.library (.language 14)))]

/-- The loader goes by a path it knows, even if no library was opened at the place where the path
leads now and the file there is a new one. Where no canonical path can be told, a library is known
again by the components of the path. -/
theorem openLibrary_by_known_path :
    (worldAfter (movedAway (.language 13) (.language 14))).files.regularFile?
        (.ofText "/r/a/x.so") = some ⟨6, .library (.language 14)⟩ ∧
      (Path.ofText "/r/a/x.so").hasSlash = true ∧
      (∀ a ∈ (Scene.fresh emptyWorld).past (movedAway (.language 13) (.language 14)),
        a.opening.files.canonical? a.opening.path ≠
            (worldAfter (movedAway (.language 13) (.language 14))).files.canonical?
              (.ofText "/r/a/x.so") ∧
          a.library.file ≠ 6) ∧
      (worldAfter (movedAway (.language 13) (.language 14))).languageAt? (.ofText "/r/a/x.so") =
        some ⟨13⟩ ∧
      ((worldAfter cutOff).files.regularFile? (.ofText "..//d/x.so")).map (·.content) =
        some (.library (.language 14)) ∧
      (worldAfter cutOff).files.canonical? (.ofText "..//d/x.so") = none ∧
      (worldAfter cutOff).languageAt? (.ofText "..//d/x.so") = some ⟨13⟩ := by
  decide +kernel

end GrammarLoad
