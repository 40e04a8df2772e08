import GrammarLoad.Proofs.Opening

/-!
What a session tells while other libraries are loaded in it. The answers and events of a step depend
on what is loaded only through how its openings end and what calls of language functions return. So
two sessions that differ in nothing else tell the same through all steps whose openings end the same
in both while calls return the same.
-/
namespace GrammarLoad

namespace Loaded

/-- Openings that are made one after the other end the same with either, and calls return the same
all along. -/
def AgreesOn (x y : Loaded) : List Opening → Prop
  | [] => x.returns? = y.returns?
  | o :: rest =>
    x.returns? = y.returns? ∧
      (x.openPath o.files o.path).1 = (y.openPath o.files o.path).1 ∧
      AgreesOn (x.openPath o.files o.path).2 (y.openPath o.files o.path).2 rest

namespace AgreesOn

variable {x y : Loaded}

theorem returns? {os : List Opening} (h : x.AgreesOn y os) : x.returns? = y.returns? := by
  cases os with
  | nil => exact h
  | cons o rest => exact h.1

theorem append {xs ys : List Opening} (h : x.AgreesOn y (xs ++ ys)) :
    x.AgreesOn y xs ∧ (x.replay xs).AgreesOn (y.replay xs) ys := by
  induction xs generalizing x y with
  | nil => exact ⟨h.returns?, h⟩
  | cons o rest ih =>
    obtain ⟨hcalls, hend, hrest⟩ := h
    obtain ⟨hthen, hlater⟩ := ih hrest
    exact ⟨⟨hcalls, hend, hthen⟩, hlater⟩

theorem returns?_replay {os : List Opening} (h : x.AgreesOn y os) :
    (x.replay os).returns? = (y.replay os).returns? := by
  have hnil : x.AgreesOn y (os ++ []) := by rwa [List.append_nil]
  exact hnil.append.2

end AgreesOn

end Loaded

theorem LibraryGrammar.language_congr {x y : Loaded} (h : x.returns? = y.returns?)
    (g : LibraryGrammar) : g.language x = g.language y := by
  unfold LibraryGrammar.language
  rw [h]

theorem Bound.ask_congr {x y : Loaded} (h : x.returns? = y.returns?) (linked : LinkedGrammar)
    (bound : Bound) : bound.ask linked x = bound.ask linked y := by
  cases bound with
  | linked => rfl
  | library g => simp only [Bound.ask, g.language_congr h]

/-- An answer depends on what is loaded through the calls of language functions only. -/
theorem Provider.answer_congr {x y : Loaded} (h : x.returns? = y.returns?)
    (linked : LinkedGrammar) (calls : Calls) (p : Provider) :
    p.answer linked x calls = p.answer linked y calls := by
  induction p with
  | bound b => exact b.ask_congr h linked
  | closure c => rfl
  | through p ih => exact ih

namespace World

variable {w : World} {loaded : Loaded}

theorem provide_withLoaded {b : Binding}
    (h : loaded.AgreesOn w.loaded (w.openings b)) :
    (w.withLoaded loaded).provide b = ((w.provide b).1, (w.provide b).2.1,
      (w.provide b).2.2.withLoaded (loaded.replay (w.openings b))) := by
  cases b with
  | linked => rfl
  | library p =>
    have hend : (loaded.openPath w.files p).1 = (w.loaded.openPath w.files p).1 := h.2.1
    simp only [provide, openLibrary, withLoaded, hend]
    rfl

theorem configuredRun_withLoaded {σ : Type} [Reporter σ] (s : σ)
    (h : loaded.AgreesOn w.loaded w.configuredOpenings) :
    (w.withLoaded loaded).configuredRun s = ((w.configuredRun s).1, (w.configuredRun s).2.1,
      (w.configuredRun s).2.2.withLoaded (loaded.replay w.configuredOpenings)) := by
  have hchoose : (w.withLoaded loaded).chooseBinding = w.chooseBinding := rfl
  unfold configuredRun
  unfold configuredOpenings at h ⊢
  rw [hchoose]
  cases hb : w.chooseBinding with
  | error e => rfl
  | ok b =>
    rw [hb] at h
    dsimp only at h ⊢
    have hcalls := h.returns?_replay
    have hafter := w.after_provide b
    rw [provide_withLoaded h]
    rcases hp : w.provide b with ⟨made, events, after⟩
    obtain rfl : after = _ := by simpa only [hp] using hafter
    cases made with
    | error e => rfl
    | ok bound =>
      have hask := bound.ask_congr hcalls w.linked
      simp only [withLoaded, hask]

end World

/-- What an outcome tells, whatever session is left behind. -/
def Outcome.told (o : Outcome) : Answer × List Event := (o.answer, o.events)

def Outcome.withLoaded (o : Outcome) (loaded : Loaded) : Outcome :=
  { o with after := o.after.withLoaded loaded }

namespace Session

variable {s : Session} {loaded : Loaded}

theorem supply_withLoaded {source : Source}
    (h : loaded.AgreesOn s.world.loaded (s.scene.openingsOfSource source)) :
    (s.withLoaded loaded).supply source = ((s.supply source).1, (s.supply source).2.1,
      (s.supply source).2.2.withLoaded (loaded.replay (s.scene.openingsOfSource source))) := by
  induction source with
  | linked => rfl
  | binding b =>
    have hopenings : s.scene.openingsOfSource (.binding b) = s.world.openings b := by
      cases b <;> rfl
    rw [hopenings] at h ⊢
    simp only [supply, world_withLoaded, World.provide_withLoaded h]
    rcases s.world.provide b with ⟨made, events, after⟩
    cases made <;> rfl
  | slot name =>
    simp only [supply, slots_withLoaded]
    cases s.slots name <;> rfl
  | closure c => rfl
  | through source ih => simp only [supply, ih h]; rfl

theorem useProvider_withLoaded {source : Source}
    (use : Provider → Except ProviderError Handle → Answer × List Event)
    (h : loaded.AgreesOn s.world.loaded (s.scene.openingsOfSource source)) :
    (s.withLoaded loaded).useProvider source use =
      (s.useProvider source use).withLoaded
        (loaded.replay (s.scene.openingsOfSource source)) := by
  have hafter := s.after_supply source
  unfold useProvider
  rw [supply_withLoaded h]
  rcases hs : s.supply source with ⟨made, events, after⟩
  obtain rfl : after = _ := by simpa only [hs] using hafter
  cases made with
  | provider p =>
    have hanswer := p.answer_congr h.returns?_replay s.world.linked s.calls
    simp only [answerOf, withLoaded, World.withLoaded, hanswer]
    rfl
  | failed e => rfl
  | unknown => rfl

theorem runCheck_withLoaded (name : String) (run : Run Recorder) {source : Source}
    (h : loaded.AgreesOn s.world.loaded (s.scene.openingsOfSource source)) :
    (s.withLoaded loaded).runCheck name run source =
      (s.runCheck name run source).withLoaded
        (loaded.replay (s.scene.openingsOfSource source)) := by
  have hafter := s.after_supply source
  unfold runCheck
  rw [supply_withLoaded h]
  rcases hs : s.supply source with ⟨made, events, after⟩
  obtain rfl : after = _ := by simpa only [hs] using hafter
  cases made with
  | provider p =>
    have hanswer := p.answer_congr h.returns?_replay s.world.linked s.calls
    simp only [answerOf, withLoaded, World.withLoaded, hanswer]
    rfl
  | failed e => rfl
  | unknown => rfl

/-- A step tells the same, and leaves the same behind, if its openings end the same and calls return
the same. -/
theorem step_withLoaded {step : Step}
    (h : loaded.AgreesOn s.world.loaded (s.scene.openingsOf step)) :
    (s.withLoaded loaded).step step =
      (s.step step).withLoaded (loaded.replay (s.scene.openingsOf step)) := by
  cases step with
  | provide b other =>
    have hopenings : s.scene.openingsOf (.provide b other) = s.world.openings b := by
      cases b <;> rfl
    rw [hopenings] at h ⊢
    simp only [Session.step, world_withLoaded, World.provide_withLoaded h]
    rfl
  | openLibrary p slot =>
    have hend : ((s.withLoaded loaded).world.openLibrary p).1 = (s.world.openLibrary p).1 := h.2.1
    simp only [Session.step, hend]
    cases (s.world.openLibrary p).1 <;> rfl
  | ask source =>
    simp only [Session.step]
    exact useProvider_withLoaded _ h
  | check source =>
    simp only [Session.step]
    exact useProvider_withLoaded _ h
  | assertLoads source =>
    simp only [Session.step]
    exact useProvider_withLoaded _ h
  | hold slot name =>
    simp only [Session.step, slots_withLoaded]
    cases s.slots slot with
    | some g =>
      have hlanguage := g.language_congr h
      simp only [world_withLoaded, World.withLoaded, hlanguage]
      rfl
    | none => rfl
  | runCheck name source =>
    cases hrun : s.runs name with
    | some run =>
      simp only [Scene.openingsOf, hasRun_scene, hrun, Option.isSome_some, if_true] at h ⊢
      simp only [Session.step, runs_withLoaded, hrun]
      exact runCheck_withLoaded name run h
    | none =>
      simp only [Scene.openingsOf, hasRun_scene, hrun, Option.isSome_none]
      simp only [Session.step, runs_withLoaded, hrun]
      rfl
  | recordError name binding e =>
    simp only [Session.step, runs_withLoaded]
    cases s.runs name <;> rfl
  | takeReporter name =>
    simp only [Session.step, runs_withLoaded]
    cases s.runs name <;> rfl
  | configuredRun name recorder =>
    have hopenings : s.scene.openingsOf (.configuredRun name recorder) =
        s.world.configuredOpenings := rfl
    rw [hopenings] at h ⊢
    simp only [Session.step, world_withLoaded, World.configuredRun_withLoaded recorder h]
    rfl
  | _ => rfl

/-- Sessions that differ only in what is loaded tell the same as long as openings end the same and
calls return the same. -/
theorem told_outcomes_withLoaded {steps : List Step}
    (h : loaded.AgreesOn s.world.loaded (s.scene.openings steps)) :
    ((s.withLoaded loaded).outcomes steps).map Outcome.told =
      (s.outcomes steps).map Outcome.told := by
  induction steps generalizing s loaded with
  | nil => rfl
  | cons step rest ih =>
    obtain ⟨hnow, hlater⟩ := h.append
    obtain ⟨hscene, hloaded⟩ := s.leaves_step step
    have hstep := step_withLoaded hnow
    -- what the step left behind is again two sessions that differ only in what is loaded
    rw [← hscene, ← hloaded] at hlater
    have hrest := ih hlater
    simp only [outcomes, List.map_cons, hstep]
    exact congrArg (_ :: ·) hrest

end Session

end GrammarLoad
