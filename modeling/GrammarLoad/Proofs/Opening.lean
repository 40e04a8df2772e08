import GrammarLoad.Session

/-!
The openings of a session. A step opens at most one library, and which one it opens is told by the
scene: the world apart from what is loaded in it, and the names of the runs. What is loaded after a
session is what its openings load, one after the other.
-/
namespace GrammarLoad

/-- An attempt to open a library: the files as they are then, and the path that is given. -/
structure Opening where
  files : FileTree
  path : Path

/-- The canonical place of the path at the time or, where that cannot be told, the path itself. -/
def Opening.key (o : Opening) : Key := .of o.files o.path

/-- Make openings one after the other. -/
def Loaded.replay (loaded : Loaded) : List Opening → Loaded
  | [] => loaded
  | o :: rest => (loaded.openPath o.files o.path).2.replay rest

theorem Loaded.replay_append (loaded : Loaded) (xs ys : List Opening) :
    loaded.replay (xs ++ ys) = (loaded.replay xs).replay ys := by
  induction xs generalizing loaded with
  | nil => rfl
  | cons x rest ih => exact ih _

/-- What every opening preserves holds after all of them. -/
theorem Loaded.replay_preserves {P : Loaded → Prop} {os : List Opening}
    (hstep : ∀ o ∈ os, ∀ loaded, P loaded → P (loaded.openPath o.files o.path).2)
    {loaded : Loaded} (h : P loaded) : P (loaded.replay os) := by
  induction os generalizing loaded with
  | nil => exact h
  | cons o rest ih =>
    have hnext := hstep o List.mem_cons_self loaded h
    exact ih (fun o' ho' => hstep o' (List.mem_cons_of_mem o ho')) hnext

/-- A library that is kept for a place stays there. -/
theorem Loaded.at?_replay_of_at? {loaded : Loaded} {k : Key} {kept : Library}
    (os : List Opening) (h : loaded.at? k = some kept) :
    (loaded.replay os).at? k = some kept := by
  refine replay_preserves (P := (·.at? k = some kept)) ?_ h
  intro o _ now hnow
  exact at?_openPath_of_at? o.files o.path hnow

namespace World

def withLoaded (w : World) (loaded : Loaded) : World := { w with loaded }

/-- The same world with no library loaded. -/
def unloaded (w : World) : World := w.withLoaded .empty

/-- What is opened for a binding. -/
def openings (w : World) : Binding → List Opening
  | .linked => []
  | .library p => [⟨w.files, p⟩]

/-- What a configured run opens. -/
def configuredOpenings (w : World) : List Opening :=
  match w.chooseBinding with
  | .ok b => w.openings b
  | .error _ => []

theorem after_provide (w : World) (b : Binding) :
    (w.provide b).2.2 = w.withLoaded (w.loaded.replay (w.openings b)) := by
  cases b <;> rfl

theorem after_configuredRun {σ : Type} [Reporter σ] (w : World) (s : σ) :
    (w.configuredRun s).2.2 = w.withLoaded (w.loaded.replay w.configuredOpenings) := by
  unfold configuredRun configuredOpenings
  cases w.chooseBinding with
  | error e => rfl
  | ok b =>
    have hafter := w.after_provide b
    dsimp only
    rcases hp : w.provide b with ⟨made, events, after⟩
    rw [hp] at hafter
    cases made <;> exact hafter

end World

/-- All that decides which libraries a session opens. -/
structure Scene where
  environment : Environment
  host : Host
  files : FileTree
  linked : LinkedGrammar
  hasRun : String → Bool

namespace Scene

/-- The world of a scene, as if no library were loaded. -/
def world (c : Scene) : World := ⟨c.environment, c.host, c.files, c.linked, .empty⟩

def openingsOfSource (c : Scene) : Source → List Opening
  | .binding b => c.world.openings b
  | .through source => c.openingsOfSource source
  | _ => []

/-- What a step opens. A check within a run that is not there opens nothing. -/
def openingsOf (c : Scene) : Step → List Opening
  | .provide b _ => c.world.openings b
  | .openLibrary p _ => [⟨c.files, p⟩]
  | .ask source => c.openingsOfSource source
  | .check source => c.openingsOfSource source
  | .assertLoads source => c.openingsOfSource source
  | .runCheck name source => if c.hasRun name then c.openingsOfSource source else []
  | .configuredRun _ _ => c.world.configuredOpenings
  | _ => []

def setRun (c : Scene) (name : String) (there : Bool) : Scene :=
  { c with hasRun := fun k => if k = name then there else c.hasRun k }

theorem setRun_hasRun (c : Scene) (name : String) : c.setRun name (c.hasRun name) = c := by
  have hsame : (c.setRun name (c.hasRun name)).hasRun = c.hasRun := by
    funext k
    by_cases hk : k = name <;> simp [setRun, hk]
  calc
    c.setRun name (c.hasRun name) =
        { c with hasRun := (c.setRun name (c.hasRun name)).hasRun } := rfl
    _ = c := by rw [hsame]

/-- The scene after a step. -/
def step (c : Scene) : Step → Scene
  | .setLinked language => { c with linked := c.linked.returning language }
  | .newRun name _ => c.setRun name true
  | .takeReporter name => c.setRun name false
  | .configuredRun name _ => c.setRun name true
  | .setEnvironment changes =>
    { c with environment := changes.foldl (fun e v => e.set v.1 v.2) c.environment }
  | .changeFiles change => { c with files := c.files.apply change }
  | _ => c

def afterAll (c : Scene) (steps : List Step) : Scene := steps.foldl step c

/-- What several steps open, in order. -/
def openings (c : Scene) : List Step → List Opening
  | [] => []
  | step :: rest => c.openingsOf step ++ (c.step step).openings rest

end Scene

namespace Session

def scene (s : Session) : Scene where
  environment := s.world.environment
  host := s.world.host
  files := s.world.files
  linked := s.world.linked
  hasRun := fun name => (s.runs name).isSome

def withLoaded (s : Session) (loaded : Loaded) : Session :=
  { s with world := s.world.withLoaded loaded }

theorem world_withLoaded (s : Session) (loaded : Loaded) :
    (s.withLoaded loaded).world = s.world.withLoaded loaded := rfl

theorem slots_withLoaded (s : Session) (loaded : Loaded) : (s.withLoaded loaded).slots = s.slots :=
  rfl

theorem runs_withLoaded (s : Session) (loaded : Loaded) : (s.withLoaded loaded).runs = s.runs :=
  rfl

theorem hasRun_scene (s : Session) (name : String) :
    s.scene.hasRun name = (s.runs name).isSome := rfl

theorem scene_update (s : Session) (name : String) (run : Option (Run Recorder)) :
    { s with runs := update s.runs name run }.scene = s.scene.setRun name run.isSome := by
  simp only [scene, Scene.setRun, Scene.mk.injEq, true_and]
  funext k
  by_cases hk : k = name <;> simp [update, hk]

/-- A run that is there stays there when it is changed. -/
theorem scene_setRun_of_some {s : Session} {name : String} {run : Run Recorder}
    (new : Run Recorder) (h : s.runs name = some run) : (s.setRun name new).scene = s.scene := by
  have hthere : s.scene.hasRun name = true := by simp [hasRun_scene, h]
  calc
    (s.setRun name new).scene = s.scene.setRun name true := s.scene_update name (some new)
    _ = s.scene := by rw [← hthere, Scene.setRun_hasRun]

/-- Getting a provider loads what its source opens, and changes nothing else. -/
theorem after_supply (s : Session) (source : Source) :
    (s.supply source).2.2 =
      s.withLoaded (s.world.loaded.replay (s.scene.openingsOfSource source)) := by
  induction source with
  | linked => rfl
  | binding b =>
    have hafter := s.world.after_provide b
    unfold supply
    rcases hp : s.world.provide b with ⟨made, events, after⟩
    rw [hp] at hafter
    dsimp only at hafter
    subst after
    cases made <;> cases b <;> rfl
  | slot name =>
    unfold supply
    cases s.slots name <;> rfl
  | closure c => rfl
  | through source ih => exact ih

/-- A source is used by using the provider that it comes to, once what it opens is loaded. -/
theorem useProvider_eq (s : Session) (source : Source)
    (use : Provider → Except ProviderError Handle → Answer × List Event) :
    ∃ made events t, s.supply source = (made, events, t) ∧
      t = s.withLoaded (s.world.loaded.replay (s.scene.openingsOfSource source)) ∧
      s.useProvider source use = match made with
        | .provider p =>
          ⟨(use p (t.answerOf p)).1, events ++ (use p (t.answerOf p)).2, t.asked p⟩
        | .failed e => ⟨.error e, events, t⟩
        | .unknown => ⟨.unknown, events, t⟩ := by
  have hafter := s.after_supply source
  unfold useProvider
  rcases hs : s.supply source with ⟨made, events, t⟩
  rw [hs] at hafter
  exact ⟨made, events, t, rfl, hafter, by cases made <;> rfl⟩

/-- A check within a run is a check of the provider that the source comes to. -/
theorem runCheck_eq (s : Session) (name : String) (run : Run Recorder) (source : Source) :
    ∃ made events t, s.supply source = (made, events, t) ∧
      t = s.withLoaded (s.world.loaded.replay (s.scene.openingsOfSource source)) ∧
      s.runCheck name run source = match made with
        | .provider p =>
          ⟨.ran (run.check p.binding (t.answerOf p)).1.summary
              (.ok (Run.reportOf p.binding (t.answerOf p))),
            events ++ (run.check p.binding (t.answerOf p)).2,
            (t.asked p).setRun name (run.check p.binding (t.answerOf p)).1⟩
        | .failed e => ⟨.ran run.summary (.error e), events, t⟩
        | .unknown => ⟨.unknown, events, t⟩ := by
  have hafter := s.after_supply source
  unfold runCheck
  rcases hs : s.supply source with ⟨made, events, t⟩
  rw [hs] at hafter
  exact ⟨made, events, t, rfl, hafter, by cases made <;> rfl⟩

/-- What an outcome leaves behind: the scene, and what is loaded after some openings. -/
def Leaves (s t : Session) (c : Scene) (os : List Opening) : Prop :=
  t.scene = c ∧ t.world.loaded = s.world.loaded.replay os

theorem leaves_useProvider (s : Session) (source : Source)
    (use : Provider → Except ProviderError Handle → Answer × List Event) :
    s.Leaves (s.useProvider source use).after s.scene (s.scene.openingsOfSource source) := by
  obtain ⟨made, events, t, -, rfl, hu⟩ := s.useProvider_eq source use
  rw [hu]
  cases made <;> exact ⟨rfl, rfl⟩

theorem leaves_runCheck {s : Session} {name : String} {run : Run Recorder} (source : Source)
    (h : s.runs name = some run) :
    s.Leaves (s.runCheck name run source).after s.scene (s.scene.openingsOfSource source) := by
  obtain ⟨made, events, t, -, rfl, hr⟩ := s.runCheck_eq name run source
  rw [hr]
  cases made with
  | provider p => exact ⟨scene_setRun_of_some (s := (s.withLoaded _).asked p) _ h, rfl⟩
  | failed e => exact ⟨rfl, rfl⟩
  | unknown => exact ⟨rfl, rfl⟩

/-- A step leaves the scene's own next scene, and loads what it opens. -/
theorem leaves_step (s : Session) (step : Step) :
    s.Leaves (s.step step).after (s.scene.step step) (s.scene.openingsOf step) := by
  cases step with
  | provide b other =>
    have hafter := s.world.after_provide b
    simp only [Session.step, hafter]
    exact ⟨rfl, rfl⟩
  | openLibrary p slot =>
    simp only [Session.step]
    cases (s.world.openLibrary p).1 <;> exact ⟨rfl, rfl⟩
  | ask source => exact leaves_useProvider s source _
  | check source => exact leaves_useProvider s source _
  | assertLoads source => exact leaves_useProvider s source _
  | hold slot name =>
    simp only [Session.step]
    cases s.slots slot <;> exact ⟨rfl, rfl⟩
  | newRun name recorder => exact ⟨scene_update _ name (some _), rfl⟩
  | runCheck name source =>
    have hrun : s.scene.hasRun name = (s.runs name).isSome := rfl
    simp only [Session.step, Scene.openingsOf, hrun]
    cases h : s.runs name with
    | some run => exact leaves_runCheck source h
    | none => exact ⟨rfl, rfl⟩
  | recordError name binding e =>
    simp only [Session.step]
    cases h : s.runs name with
    | some run => exact ⟨scene_setRun_of_some _ h, rfl⟩
    | none => exact ⟨rfl, rfl⟩
  | takeReporter name =>
    simp only [Session.step, Scene.step]
    cases h : s.runs name with
    | some run => exact ⟨s.scene_update name none, rfl⟩
    | none =>
      have hgone : s.scene.hasRun name = false := by simp [hasRun_scene, h]
      exact ⟨by rw [← hgone, Scene.setRun_hasRun]; rfl, rfl⟩
  | configuredRun name recorder =>
    have hafter := s.world.after_configuredRun recorder
    simp only [Session.step, hafter]
    exact ⟨scene_update _ name (some _), rfl⟩
  | _ => exact ⟨rfl, rfl⟩

theorem scene_afterAll (s : Session) (steps : List Step) :
    (s.afterAll steps).scene = s.scene.afterAll steps := by
  induction steps generalizing s with
  | nil => rfl
  | cons step rest ih =>
    have hstep := (s.leaves_step step).1
    calc
      (s.afterAll (step :: rest)).scene = (s.step step).after.scene.afterAll rest := ih _
      _ = s.scene.afterAll (step :: rest) := by rw [hstep]; rfl

/-- What is loaded after a session is what its openings load. -/
theorem loaded_afterAll (s : Session) (steps : List Step) :
    (s.afterAll steps).world.loaded = s.world.loaded.replay (s.scene.openings steps) := by
  induction steps generalizing s with
  | nil => rfl
  | cons step rest ih =>
    obtain ⟨hscene, hloaded⟩ := s.leaves_step step
    calc
      (s.afterAll (step :: rest)).world.loaded =
          (s.step step).after.world.loaded.replay ((s.step step).after.scene.openings rest) := ih _
      _ = (s.world.loaded.replay (s.scene.openingsOf step)).replay
          ((s.scene.step step).openings rest) := by rw [hscene, hloaded]
      _ = s.world.loaded.replay (s.scene.openings (step :: rest)) :=
          (Loaded.replay_append _ _ _).symm

/-- A library that is kept for a place stays there through all steps. -/
theorem at?_afterAll_of_at? {s : Session} {k : Key} {kept : Library} (steps : List Step)
    (h : s.world.loaded.at? k = some kept) :
    (s.afterAll steps).world.loaded.at? k = some kept := by
  rw [loaded_afterAll]
  exact Loaded.at?_replay_of_at? _ h

/-- A session that begins in a world, with no library loaded. -/
def fresh (w : World) : Session := start w.unloaded

/-- What some session comes to that began with no library loaded. -/
def Reachable (s : Session) : Prop := ∃ w steps, s = (fresh w).afterAll steps

theorem Reachable.afterAll {s : Session} (h : s.Reachable) (steps : List Step) :
    (s.afterAll steps).Reachable := by
  obtain ⟨w, before, rfl⟩ := h
  exact ⟨w, before ++ steps, (afterAll_append _ before steps).symm⟩

/-- What holds of every fresh session and is kept by every step holds of all that is reachable. -/
theorem Reachable.induction {P : Session → Prop} (hstart : ∀ w, P (fresh w))
    (hstep : ∀ s step, s.Reachable → P s → P (s.step step).after) {s : Session}
    (h : s.Reachable) : P s := by
  have hrun : ∀ steps (t : Session), t.Reachable → P t → P (t.afterAll steps) := by
    intro steps
    induction steps with
    | nil => exact fun _ _ hp => hp
    | cons step rest ih =>
      intro t ht hp
      have hnext : P (t.step step).after := hstep t step ht hp
      exact ih (t.step step).after (ht.afterAll [step]) hnext
  obtain ⟨w, steps, rfl⟩ := h
  exact hrun steps (fresh w) ⟨w, [], rfl⟩ (hstart w)

end Session

/-- A world with a working directory and no linked grammar. -/
def emptyWorld : World := .start (.ofText "/r") (.ofText "/e") .absent

/-- The world at the end of a session that begins in the empty one. -/
def worldAfter (steps : List Step) : World := ((Session.fresh emptyWorld).afterAll steps).world

/-- A directory is moved away after a library was opened in it, and another one is linked into its
place, with another library under the same name. -/
def movedAway (before after : EntryPoint) : List Step := [
  .changeFiles (.write (.ofText "/r/a/x.so") (.library before)),
  .openLibrary (.ofText "/r/a/x.so") "main",
  .changeFiles (.rename (.ofText "/r/a") (.ofText "/r/b")),
  .changeFiles (.write (.ofText "/r/c/x.so") (.library after)),
  .changeFiles (.link (.ofText "/r/a") (.ofText "c"))]

end GrammarLoad
