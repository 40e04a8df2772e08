import GrammarLoad.Proofs.Opening

/-!
The calls that are made on a run. A run keeps one report for each call, in order, whatever its
reporter is. In a session, a run is what the calls on it have made of it: neither the steps in
between nor the calls on other runs take part in it.
-/
namespace GrammarLoad

namespace Run

/-- What adds to a run: the check of what a provider answered, or the error of a provider that could
not be made. -/
inductive Call
  | check (binding : String) (answer : Except ProviderError Handle)
  | recordError (binding : String) (e : ProviderError)

/-- The report that a call returns. -/
def Call.report : Call → Report
  | check binding answer => reportOf binding answer
  | recordError binding e => .ofError binding e

section

variable {σ τ : Type} [Reporter σ] [Reporter τ]

def call (run : Run σ) : Call → Run σ × List Event
  | .check binding answer => run.check binding answer
  | .recordError binding e => run.recordError binding e

/-- The run after several calls, and all events they told. -/
def callAll (run : Run σ) : List Call → Run σ × List Event
  | [] => (run, [])
  | c :: rest =>
    let next := run.call c
    let last := next.1.callAll rest
    (last.1, next.2 ++ last.2)

theorem callAll_append (run : Run σ) (xs ys : List Call) :
    run.callAll (xs ++ ys) = (((run.callAll xs).1.callAll ys).1,
      (run.callAll xs).2 ++ ((run.callAll xs).1.callAll ys).2) := by
  induction xs generalizing run with
  | nil => rfl
  | cons c rest ih => simp [callAll, ih]

theorem reports_call (run : Run σ) (c : Call) :
    (run.call c).1.reports = run.reports ++ [c.report] := by
  cases c <;> rfl

/-- The reporter is handed the failures of the call's report. -/
theorem reporter_call (run : Run σ) (c : Call) :
    (run.call c).1.reporter = (handOver c.report c.report.failures run.reporter).1 := by
  cases c <;> rfl

theorem reports_callAll (run : Run σ) (calls : List Call) :
    (run.callAll calls).1.reports = run.reports ++ calls.map Call.report := by
  induction calls generalizing run with
  | nil => simp [callAll]
  | cons c rest ih => simp [callAll, ih, reports_call]

/-- A reporter that stands for another one is handed failures, and tells of them, as that one. -/
def StandsFor (φ : σ → τ) : Prop :=
  ∀ r f s, Reporter.report r f (φ s) =
    (φ (Reporter.report r f s).1, (Reporter.report r f s).2)

theorem standsFor_collecting : StandsFor Recorder.collecting := fun _ _ _ => rfl

def mapReporter (φ : σ → τ) (run : Run σ) : Run τ := ⟨φ run.reporter, run.reports⟩

variable {φ : σ → τ}

theorem StandsFor.handOver (h : StandsFor φ) (r : Report) (fs : List Failure) (s : σ) :
    GrammarLoad.handOver r fs (φ s) =
      (φ (GrammarLoad.handOver r fs s).1, (GrammarLoad.handOver r fs s).2) := by
  induction fs generalizing s with
  | nil => rfl
  | cons f rest ih =>
    simp only [GrammarLoad.handOver, h r f s, ih]

theorem StandsFor.record (h : StandsFor φ) (run : Run σ) (r : Report) :
    (run.mapReporter φ).record r = ((run.record r).1.mapReporter φ, (run.record r).2) := by
  simp only [Run.record, mapReporter, h.handOver]

theorem StandsFor.call (h : StandsFor φ) (run : Run σ) (c : Call) :
    (run.mapReporter φ).call c = ((run.call c).1.mapReporter φ, (run.call c).2) := by
  cases c with
  | check binding answer => simp only [Run.call, Run.check, h.record]
  | recordError binding e => exact h.record run _

theorem StandsFor.callAll (h : StandsFor φ) (run : Run σ) (calls : List Call) :
    (run.mapReporter φ).callAll calls =
      ((run.callAll calls).1.mapReporter φ, (run.callAll calls).2) := by
  induction calls generalizing run with
  | nil => rfl
  | cons c rest ih => simp only [Run.callAll, h.call, ih]

end

end Run

/-- A step puts another run under a name, or takes the run away. -/
def Step.Replaces (name : String) : Step → Prop
  | .newRun n _ => n = name
  | .takeReporter n => n = name
  | .configuredRun n _ => n = name
  | _ => False

namespace Session

/-- The call that a step makes on the run of a name. A check whose provider cannot be made calls
nothing. -/
def callOn? (s : Session) (name : String) : Step → Option Run.Call
  | .runCheck n source =>
    if n = name then
      match s.supply source with
      | (.provider p, _, t) => some (.check p.binding (t.answerOf p))
      | _ => none
    else none
  | .recordError n binding e => if n = name then some (.recordError binding e) else none
  | _ => none

/-- The calls that some steps make on the run of a name, in order. -/
def callsOn (s : Session) (name : String) : List Step → List Run.Call
  | [] => []
  | step :: rest => (s.callOn? name step).toList ++ (s.step step).after.callsOn name rest

variable {s : Session} {name : String} {run : Run Recorder}

theorem runs_useProvider (s : Session) (source : Source)
    (use : Provider → Except ProviderError Handle → Answer × List Event) :
    (s.useProvider source use).after.runs = s.runs := by
  obtain ⟨made, events, t, -, rfl, hu⟩ := s.useProvider_eq source use
  rw [hu]
  cases made <;> rfl

theorem runs_setRun_of_ne {t : Session} {n : String} (new : Run Recorder) (hne : name ≠ n) :
    (t.setRun n new).runs name = t.runs name :=
  update_of_ne hne

theorem setRun_setRun (s : Session) (name : String) (r r' : Run Recorder) :
    (s.setRun name r).setRun name r' = s.setRun name r' := by
  have hruns : update (update s.runs name (some r)) name (some r') =
      update s.runs name (some r') := by
    funext k
    by_cases hk : k = name <;> simp [update, hk]
  simp only [setRun, hruns]

/-- A run takes no part in what a source comes to. -/
theorem supply_setRun (s : Session) (name : String) (run : Run Recorder) (source : Source) :
    (s.setRun name run).supply source =
      ((s.supply source).1, (s.supply source).2.1, (s.supply source).2.2.setRun name run) := by
  induction source with
  | linked => rfl
  | binding b =>
    simp only [supply, setRun]
    rcases s.world.provide b with ⟨bound | e, events, w⟩ <;> rfl
  | slot slot =>
    simp only [supply, setRun]
    cases s.slots slot <;> rfl
  | closure c => rfl
  | through source ih => simp only [supply, ih]

/-- A step does to a run what its call does. -/
theorem runs_step (h : s.runs name = some run) {step : Step} (hstep : ¬ step.Replaces name) :
    (s.step step).after.runs name = some (run.callAll (s.callOn? name step).toList).1 := by
  cases step with
  | openLibrary p slot =>
    simp only [Session.step]
    cases (s.world.openLibrary p).1 <;> exact h
  | ask source => exact (congrFun (runs_useProvider s source _) name).trans h
  | check source => exact (congrFun (runs_useProvider s source _) name).trans h
  | assertLoads source => exact (congrFun (runs_useProvider s source _) name).trans h
  | hold slot n =>
    simp only [Session.step]
    cases s.slots slot <;> exact h
  | newRun n recorder =>
    have hne : name ≠ n := fun heq => hstep heq.symm
    exact (runs_setRun_of_ne _ hne).trans h
  | runCheck n source =>
    by_cases hn : n = name
    · subst n
      obtain ⟨made, events, t, hs, rfl, hr⟩ := s.runCheck_eq name run source
      simp only [Session.step, h, hr, callOn?, hs, if_true]
      cases made with
      | provider p => exact update_self _ _ _
      | failed e => exact h
      | unknown => exact h
    · have hne : name ≠ n := fun heq => hn heq.symm
      simp only [Session.step, callOn?, hn, if_false]
      cases hother : s.runs n with
      | none => exact h
      | some other =>
        obtain ⟨made, events, t, -, rfl, hr⟩ := s.runCheck_eq n other source
        simp only [hr]
        cases made with
        | provider p => exact (runs_setRun_of_ne _ hne).trans h
        | failed e => exact h
        | unknown => exact h
  | recordError n binding e =>
    by_cases hn : n = name
    · subst n
      simp only [Session.step, h, callOn?, if_true]
      exact update_self _ _ _
    · have hne : name ≠ n := fun heq => hn heq.symm
      simp only [Session.step, callOn?, hn, if_false]
      cases s.runs n with
      | none => exact h
      | some other => exact (runs_setRun_of_ne _ hne).trans h
  | takeReporter n =>
    have hne : name ≠ n := fun heq => hstep heq.symm
    simp only [Session.step]
    cases s.runs n with
    | none => exact h
    | some other => exact (update_of_ne hne).trans h
  | configuredRun n recorder =>
    have hne : name ≠ n := fun heq => hstep heq.symm
    exact (runs_setRun_of_ne _ hne).trans h
  | _ => exact h

/-- A run that is not replaced is what the calls on it make of it. -/
theorem runs_afterAll (h : s.runs name = some run) {steps : List Step}
    (hsteps : ∀ step ∈ steps, ¬ step.Replaces name) :
    (s.afterAll steps).runs name = some (run.callAll (s.callsOn name steps)).1 := by
  induction steps generalizing s run with
  | nil => exact h
  | cons step rest ih =>
    have hnext := runs_step h (hsteps step List.mem_cons_self)
    have hrest := ih hnext fun st hst => hsteps st (List.mem_cons_of_mem step hst)
    rw [callsOn, Run.callAll_append]
    exact hrest

/-- A run that was started with one reporter is one of that reporter. -/
theorem runs_afterAll_start {σ : Type} [Reporter σ] {φ : σ → Recorder} (h : Run.StandsFor φ)
    (s : Session) (name : String) (own : σ) {steps : List Step}
    (hsteps : ∀ step ∈ steps, ¬ step.Replaces name) :
    ((s.setRun name (.start (φ own))).afterAll steps).runs name =
      some (((Run.start own).callAll
        ((s.setRun name (.start (φ own))).callsOn name steps)).1.mapReporter φ) := by
  have hnew : (s.setRun name (.start (φ own))).runs name =
      some ((Run.start own).mapReporter φ) := update_self _ _ _
  rw [runs_afterAll hnew hsteps, h.callAll]

end Session

end GrammarLoad
