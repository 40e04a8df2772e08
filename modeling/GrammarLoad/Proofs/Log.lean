import GrammarLoad.Proofs.Ledger

/-!
What a run writes to the log. A check writes that it is over exactly if there was a handle to check,
whoever runs it. Beyond that, a tracing run writes its failures, the same ones and in the same order
as a collecting run keeps them, and nothing that it answers depends on which of the two it is.
-/
namespace GrammarLoad

def logOf (events : List Event) : List LogEntry := events.map Event.entry

def errors (log : List LogEntry) : List LogEntry := log.filter fun e => e.level = .error

/-- What checks have written, be it an error or not. -/
def checkEntries (log : List LogEntry) : List LogEntry :=
  log.filter fun e => e.target = "tree_sitter_gloss::check"

def finishedEntry (r : Report) : LogEntry :=
  ⟨.debug, "tree_sitter_gloss::check",
    [("message", Report.checkName ++ " finished"), ("binding", r.binding),
      ("state", r.state.name)]⟩

/-- The end of a check is written with the binding and the state that the report has. -/
theorem finishedEntry_eq_iff {r r' : Report} :
    finishedEntry r = finishedEntry r' ↔ r.binding = r'.binding ∧ r.state = r'.state := by
  simp [finishedEntry, State.name_inj]

/-- The entry of a failure that is kept with the name of its binding. -/
def failureEntry (x : String × Failure) : LogEntry :=
  ⟨.error, "tree_sitter_gloss::check",
    [("message", x.2.message), ("check", Report.checkName), ("binding", x.1),
      ("kind", x.2.kind.name), ("detail", x.2.detail.getD "")]⟩

theorem FailureKind.name_eq_iff {k : FailureKind} :
    k.name = "GrammarUnavailable" ↔ k = .grammarUnavailable := by
  cases k <;> simp [FailureKind.name]

theorem Failure.Telling.getD_detail_eq_iff {f : Failure} (h : f.Telling) :
    f.detail.getD "" = "" ↔ f.kind = .grammarUnavailable := by
  rw [← h.detail]
  cases hd : f.detail with
  | none => simp
  | some text =>
    have hne : text ≠ "" := fun heq => h.detail_ne_empty (by rw [hd, heq])
    simp [hne]

theorem detail_mem_failureEntry_iff {x : String × Failure} (h : x.2.Telling) :
    ("detail", "") ∈ (failureEntry x).fields ↔
      ("kind", "GrammarUnavailable") ∈ (failureEntry x).fields := by
  have hdetail : ("detail", "") ∈ (failureEntry x).fields ↔ x.2.detail.getD "" = "" := by
    simp [failureEntry, eq_comm (a := "")]
  have hkind : ("kind", "GrammarUnavailable") ∈ (failureEntry x).fields ↔
      x.2.kind.name = "GrammarUnavailable" := by
    simp [failureEntry, eq_comm (a := "GrammarUnavailable")]
  rw [hdetail, hkind, h.getD_detail_eq_iff, FailureKind.name_eq_iff]

theorem errors_append (xs ys : List LogEntry) : errors (xs ++ ys) = errors xs ++ errors ys :=
  List.filter_append xs ys

theorem checkEntries_append (xs ys : List LogEntry) :
    checkEntries (xs ++ ys) = checkEntries xs ++ checkEntries ys :=
  List.filter_append xs ys

theorem errors_flatMap {α : Type} (writes : α → List LogEntry) (xs : List α) :
    errors (xs.flatMap writes) = xs.flatMap fun x => errors (writes x) :=
  List.filter_flatMap

theorem checkEntries_flatMap {α : Type} (writes : α → List LogEntry) (xs : List α) :
    checkEntries (xs.flatMap writes) = xs.flatMap fun x => checkEntries (writes x) :=
  List.filter_flatMap

theorem logOf_append (xs ys : List Event) : logOf (xs ++ ys) = logOf xs ++ logOf ys :=
  List.map_append

theorem errors_failureEntries (xs : List (String × Failure)) :
    errors (xs.map failureEntry) = xs.map failureEntry := by
  apply List.filter_eq_self.mpr
  intro e he
  obtain ⟨x, -, rfl⟩ := List.mem_map.mp he
  rfl

theorem checkEntries_failureEntries (xs : List (String × Failure)) :
    checkEntries (xs.map failureEntry) = xs.map failureEntry := by
  apply List.filter_eq_self.mpr
  intro e he
  obtain ⟨x, -, rfl⟩ := List.mem_map.mp he
  exact decide_eq_true rfl

namespace Run

/-- What a call writes of its check: that it is over, if there was a handle to check. -/
def Call.finishes : Call → List LogEntry
  | .check binding (.ok h) => [finishedEntry (reportOf binding (.ok h))]
  | _ => []

/-- What a call on a tracing run writes: the end of the check comes before the failures. -/
def Call.traced (c : Call) : List LogEntry := c.finishes ++ c.report.handed.map failureEntry

theorem Call.errors_finishes (c : Call) : errors c.finishes = [] := by
  rcases c with ⟨binding, e | h⟩ | ⟨binding, e⟩ <;> rfl

theorem Call.checkEntries_finishes (c : Call) : checkEntries c.finishes = c.finishes := by
  rcases c with ⟨binding, e | h⟩ | ⟨binding, e⟩ <;> simp [finishes, checkEntries, finishedEntry]

theorem Call.errors_traced (c : Call) : errors c.traced = c.report.handed.map failureEntry := by
  rw [traced, errors_append, errors_finishes, errors_failureEntries, List.nil_append]

theorem Call.checkEntries_traced (c : Call) : checkEntries c.traced = c.traced := by
  rw [traced, checkEntries_append, checkEntries_finishes, checkEntries_failureEntries]

section

variable {σ : Type} [Reporter σ]

/-- Before its failures are handed over, a call tells the end of its check. -/
theorem logOf_call (run : Run σ) (c : Call) :
    logOf (run.call c).2 =
      c.finishes ++ logOf (handOver c.report c.report.failures run.reporter).2 := by
  rcases c with ⟨binding, e | h⟩ | ⟨binding, e⟩ <;> rfl

/-- Where every call writes what the call alone decides, several calls write this in order. -/
theorem logOf_callAll {writes : Call → List LogEntry}
    (h : ∀ (run : Run σ) (c : Call), logOf (run.call c).2 = writes c) (run : Run σ)
    (calls : List Call) : logOf (run.callAll calls).2 = calls.flatMap writes := by
  induction calls generalizing run with
  | nil => rfl
  | cons c rest ih => rw [callAll, logOf_append, h, ih, List.flatMap_cons]

end

theorem logOf_call_collecting (run : Run Collecting) (c : Call) :
    logOf (run.call c).2 = c.finishes := by
  rw [logOf_call, handOver_collecting]
  exact List.append_nil _

theorem logOf_call_tracing (run : Run Tracing) (c : Call) : logOf (run.call c).2 = c.traced := by
  have hname := c.ended_report.name
  rw [logOf_call, handOver_tracing, Call.traced, Report.handed]
  simp only [logOf, List.map_map]
  congr 2
  funext f
  simp [Event.entry, failureEntry, hname]

/-- A tracing run and a collecting run after the same calls, each with all events it told. What the
first wrote is what was added to the failures that the second began with. -/
structure Mirrors (initial : List (String × Failure)) (calls : List Call)
    (t : Run Tracing × List Event) (c : Run Collecting × List Event) : Prop where
  reports : t.1.reports = c.1.reports
  passed : t.1.passed = c.1.passed
  failureCount : t.1.failureCount = c.1.failureCount
  named : ∀ r ∈ t.1.reports, r.name = Report.checkName
  errors_tracing : ∃ added, c.1.reporter.failures = initial ++ added ∧
    errors (logOf t.2) = added.map failureEntry
  detail_empty_iff : ∀ e ∈ errors (logOf t.2),
    ("detail", "") ∈ e.fields ↔ ("kind", "GrammarUnavailable") ∈ e.fields
  errors_collecting : errors (logOf c.2) = []
  log_tracing : logOf t.2 = calls.flatMap Call.traced
  log_collecting : logOf c.2 = calls.flatMap Call.finishes

theorem errors_flatMap_traced (calls : List Call) :
    errors (calls.flatMap Call.traced) =
      ((calls.map Call.report).flatMap Report.handed).map failureEntry := by
  rw [errors_flatMap, List.flatMap_map, List.map_flatMap]
  simp only [Call.errors_traced]

theorem errors_flatMap_finishes (calls : List Call) :
    errors (calls.flatMap Call.finishes) = [] := by
  rw [errors_flatMap]
  simp [Call.errors_finishes]

theorem checkEntries_flatMap_traced (calls : List Call) :
    checkEntries (calls.flatMap Call.traced) = calls.flatMap Call.traced := by
  rw [checkEntries_flatMap]
  simp only [Call.checkEntries_traced]

theorem checkEntries_flatMap_finishes (calls : List Call) :
    checkEntries (calls.flatMap Call.finishes) = calls.flatMap Call.finishes := by
  rw [checkEntries_flatMap]
  simp only [Call.checkEntries_finishes]

theorem Ledger.telling {run : Run Collecting} {initial : List (String × Failure)}
    {calls : List Call} (h : run.Ledger initial calls) {x : String × Failure}
    (hx : x ∈ run.reports.flatMap Report.handed) : x.2.Telling := by
  obtain ⟨r, hr, hx⟩ := List.mem_flatMap.mp hx
  obtain ⟨f, hf, rfl⟩ := List.mem_map.mp hx
  exact (h.ended r hr).telling f hf

theorem mirrors_callAll (c : Collecting) (calls : List Call) :
    Mirrors c.failures calls ((start (⟨⟩ : Tracing)).callAll calls) ((start c).callAll calls) := by
  have hledger := (Ledger.start c).callAll calls
  rw [List.nil_append] at hledger
  have hreports : ((start (⟨⟩ : Tracing)).callAll calls).1.reports =
      ((start c).callAll calls).1.reports := by
    rw [reports_callAll, reports_callAll]
    rfl
  have htracing := logOf_callAll logOf_call_tracing (start ⟨⟩) calls
  have hcollecting := logOf_callAll logOf_call_collecting (start c) calls
  have herrors : errors (logOf ((start (⟨⟩ : Tracing)).callAll calls).2) =
      (((start c).callAll calls).1.reports.flatMap Report.handed).map failureEntry := by
    rw [htracing, errors_flatMap_traced, hledger.reports]
  refine ⟨hreports, ?_, ?_, ?_, ⟨_, hledger.collected, herrors⟩, ?_, ?_, htracing, hcollecting⟩
  · unfold passed
    rw [hreports]
  · unfold failureCount
    rw [hreports]
  · intro r hr
    rw [hreports] at hr
    exact (hledger.ended r hr).name
  · intro e he
    rw [herrors] at he
    obtain ⟨x, hx, rfl⟩ := List.mem_map.mp he
    exact detail_mem_failureEntry_iff (hledger.telling hx)
  · rw [hcollecting, errors_flatMap_finishes]

/-- What can be asked of a run in a session. -/
inductive Request
  | check (source : Source)
  | recordError (binding : String) (e : ProviderError)

def Request.on (name : String) : Request → Step
  | .check source => .runCheck name source
  | .recordError binding e => .recordError name binding e

theorem Request.not_replaces (q : Request) (name : String) : ¬ (q.on name).Replaces name := by
  cases q <;> exact id

theorem standsFor_tracing : StandsFor Recorder.tracing := fun _ _ _ => rfl

end Run

namespace Session

/-- The log of several steps. -/
def log (s : Session) (steps : List Step) : List LogEntry :=
  logOf ((s.outcomes steps).flatMap Outcome.events)

theorem log_cons (s : Session) (step : Step) (rest : List Step) :
    s.log (step :: rest) = logOf (s.step step).events ++ (s.step step).after.log rest := by
  simp [log, outcomes, logOf_append]

/-- A check within a session writes one entry of its own if the provider answers with a handle, and
then it says how the report ended; else it writes none. -/
def FinishesOnce (s : Session) (source : Source) : Prop :=
  match (s.step (.ask source)).answer with
  | .handle _ => ∃ r, (s.step (.check source)).answer = .report r ∧
      checkEntries (logOf (s.step (.check source)).events) = [finishedEntry r]
  | _ => checkEntries (logOf (s.step (.check source)).events) = []

/-- Getting a provider tells of the binding and of an opened library only. -/
theorem logOf_supply (s : Session) (source : Source) :
    errors (logOf (s.supply source).2.1) = [] ∧
      checkEntries (logOf (s.supply source).2.1) = [] := by
  induction source with
  | linked => exact ⟨rfl, rfl⟩
  | binding b =>
    cases b with
    | linked => exact ⟨rfl, by simp [supply, World.provide, checkEntries, logOf, Event.entry]⟩
    | library p =>
      simp only [supply, World.provide]
      cases (s.world.openLibrary p).1 <;>
        simp [Except.map, World.openEvents, errors, checkEntries, logOf, Event.entry]
  | slot name =>
    simp only [supply]
    cases s.slots name <;> exact ⟨rfl, rfl⟩
  | closure c => exact ⟨rfl, rfl⟩
  | through source ih => exact ih

/-- Only a check that has a report tells something, and no error. -/
theorem logOf_checkEvents (checked : Except ProviderError Report) :
    errors (logOf (checkEvents checked)) = [] ∧
      checkEntries (logOf (checkEvents checked)) = checked.toOption.toList.map finishedEntry := by
  cases checked with
  | error e => exact ⟨rfl, rfl⟩
  | ok r => exact ⟨rfl, by simp [checkEvents, checkEntries, logOf, Event.entry]; rfl⟩

theorem errors_check (s : Session) (source : Source) :
    errors (logOf (s.step (.check source)).events) = [] := by
  have htold := (s.logOf_supply source).1
  obtain ⟨made, events, t, hs, -, hu⟩ := s.useProvider_eq source fun p answer =>
    (reportAnswer (GrammarLoad.check p.binding answer),
      checkEvents (GrammarLoad.check p.binding answer))
  rw [hs] at htold
  simp only [step, hu]
  cases made with
  | provider p =>
    rw [logOf_append, errors_append, htold, (logOf_checkEvents _).1]
    rfl
  | failed e => exact htold
  | unknown => exact htold

theorem events_assertLoads (s : Session) (source : Source) :
    (s.step (.assertLoads source)).events = (s.step (.check source)).events := by
  simp only [step, useProvider]
  rcases s.supply source with ⟨made | e | _, events, t⟩ <;> rfl

theorem finishesOnce (s : Session) (source : Source) : s.FinishesOnce source := by
  have htold := (s.logOf_supply source).2
  unfold FinishesOnce
  simp only [step, useProvider]
  rcases hs : s.supply source with ⟨made, events, t⟩
  rw [hs] at htold
  cases made with
  | provider p =>
    simp only [logOf_append, checkEntries_append, htold, (logOf_checkEvents _).2]
    cases t.answerOf p with
    | error e => rfl
    | ok h => exact ⟨_, rfl, rfl⟩
  | failed e => exact htold
  | unknown => exact htold

section

variable (s : Session) (name : String)

/-- One request: what is answered follows from the reports that the run has, and what is told and
kept besides is told and kept by the calls on it. -/
theorem step_request (q : Run.Request) :
    ∃ (calls : List Run.Call) (answer : List Report → Answer) (told : List Event) (t : Session),
      errors (logOf told) = [] ∧ checkEntries (logOf told) = [] ∧
      ∀ run : Run Recorder,
        ((s.setRun name run).callOn? name (q.on name)).toList = calls ∧
        (s.setRun name run).step (q.on name) =
          ⟨answer run.reports, told ++ (run.callAll calls).2,
            t.setRun name (run.callAll calls).1⟩ := by
  have hruns : ∀ run, (s.setRun name run).runs name = some run := fun run => update_self _ _ _
  cases q with
  | recordError binding e =>
    refine ⟨[.recordError binding e], fun reports =>
      .ran (Run.summary ⟨Recorder.tracing ⟨⟩, reports ++ [.ofError binding e]⟩)
        (.ok (.ofError binding e)), [], s, rfl, rfl, fun run => ⟨?_, ?_⟩⟩
    · simp [Run.Request.on, callOn?]
    · simp only [Run.Request.on, step, hruns, setRun_setRun, Run.callAll, List.append_nil]
      rfl
  | check source =>
    obtain ⟨herrors, hchecks⟩ := s.logOf_supply source
    rcases hs : s.supply source with ⟨made, events, t⟩
    rw [hs] at herrors hchecks
    have hsupply : ∀ run, (s.setRun name run).supply source = (made, events, t.setRun name run) :=
      fun run => by rw [supply_setRun, hs]
    cases made with
    | provider p =>
      refine ⟨[.check p.binding (t.answerOf p)], fun reports =>
        .ran (Run.summary ⟨Recorder.tracing ⟨⟩, reports ++ [Run.reportOf p.binding (t.answerOf p)]⟩)
          (.ok (Run.reportOf p.binding (t.answerOf p))), events, t.asked p, herrors, hchecks,
        fun run => ⟨?_, ?_⟩⟩
      · simp only [Run.Request.on, callOn?, hsupply, if_true]
        rfl
      · simp only [Run.Request.on, step, hruns, runCheck, hsupply, Run.callAll, List.append_nil]
        have hafter := (t.asked p).setRun_setRun name run
          (run.check p.binding (t.answerOf p)).1
        exact congrArg (Outcome.mk _ _) hafter
    | failed e =>
      refine ⟨[], fun reports => .ran (Run.summary ⟨Recorder.tracing ⟨⟩, reports⟩) (.error e),
        events, t, herrors, hchecks, fun run => ⟨?_, ?_⟩⟩
      · simp only [Run.Request.on, callOn?, hsupply, if_true]
        rfl
      · simp only [Run.Request.on, step, hruns, runCheck, hsupply, Run.callAll, List.append_nil]
        rfl
    | unknown =>
      refine ⟨[], fun _ => .unknown, events, t, herrors, hchecks, fun run => ⟨?_, ?_⟩⟩
      · simp only [Run.Request.on, callOn?, hsupply, if_true]
        rfl
      · simp only [Run.Request.on, step, hruns, runCheck, hsupply, Run.callAll, List.append_nil]

/-- Runs with the same reports are answered alike through all requests. -/
theorem log_requests (requests : List Run.Request) (reports : List Report) :
    ∃ (calls : List Run.Call) (answers : List Answer), ∀ run : Run Recorder, run.reports = reports →
      (s.setRun name run).callsOn name (requests.map (Run.Request.on name)) = calls ∧
      ((s.setRun name run).outcomes (requests.map (Run.Request.on name))).map Outcome.answer =
        answers ∧
      errors ((s.setRun name run).log (requests.map (Run.Request.on name))) =
        errors (logOf (run.callAll calls).2) ∧
      checkEntries ((s.setRun name run).log (requests.map (Run.Request.on name))) =
        checkEntries (logOf (run.callAll calls).2) := by
  induction requests generalizing s reports with
  | nil => exact ⟨[], [], fun run _ => ⟨rfl, rfl, rfl, rfl⟩⟩
  | cons q rest ih =>
    obtain ⟨now, answer, told, t, herrors, hchecks, hstep⟩ := s.step_request name q
    obtain ⟨later, answers, hrest⟩ := ih t (reports ++ now.map Run.Call.report)
    refine ⟨now ++ later, answer reports :: answers, ?_⟩
    intro run hrun
    obtain ⟨hcall, hout⟩ := hstep run
    have hreports : (run.callAll now).1.reports = reports ++ now.map Run.Call.report := by
      rw [Run.reports_callAll, hrun]
    obtain ⟨hcalls, hanswers, herrors', hchecks'⟩ := hrest _ hreports
    rw [List.map_cons, log_cons, Run.callAll_append]
    simp only [callsOn, outcomes, hcall, hout, hcalls, List.map_cons, hanswers, hrun, logOf_append,
      errors_append, checkEntries_append, herrors, hchecks, herrors', hchecks', List.nil_append,
      true_and]

end

/-- The same requests of a tracing run and of a collecting run, and else of the same session. What
the first wrote is what was added to the failures that the second began with. -/
structure RequestsMirror (name : String) (initial : List (String × Failure)) (steps : List Step)
    (t c : Session) : Prop where
  answers : (t.outcomes steps).map Outcome.answer = (c.outcomes steps).map Outcome.answer
  calls : t.callsOn name steps = c.callsOn name steps
  errors_tracing : ∃ (run : Run Collecting) (added : List (String × Failure)),
    (c.afterAll steps).runs name = some (run.mapReporter .collecting) ∧
      run.reporter.failures = initial ++ added ∧
      errors (t.log steps) = added.map failureEntry
  errors_collecting : errors (c.log steps) = []
  log_tracing : checkEntries (t.log steps) = (t.callsOn name steps).flatMap Run.Call.traced
  log_collecting : checkEntries (c.log steps) = (c.callsOn name steps).flatMap Run.Call.finishes

theorem requestsMirror (s : Session) (name : String) (c : Collecting)
    (requests : List Run.Request) :
    RequestsMirror name c.failures (requests.map (Run.Request.on name))
      (s.setRun name (.start (.tracing ⟨⟩))) (s.setRun name (.start (.collecting c))) := by
  obtain ⟨calls, answers, hsame⟩ := s.log_requests name requests []
  obtain ⟨htcalls, htanswers, hterrors, htlog⟩ := hsame (.start (.tracing ⟨⟩)) rfl
  obtain ⟨hccalls, hcanswers, hcerrors, hclog⟩ := hsame (.start (.collecting c)) rfl
  have hmirrors := Run.mirrors_callAll c calls
  have htold : ((Run.start (Recorder.tracing ⟨⟩)).callAll calls).2 =
      ((Run.start (⟨⟩ : Tracing)).callAll calls).2 :=
    congrArg Prod.snd (Run.standsFor_tracing.callAll (Run.start ⟨⟩) calls)
  have hctold : ((Run.start (Recorder.collecting c)).callAll calls).2 =
      ((Run.start c).callAll calls).2 :=
    congrArg Prod.snd (Run.standsFor_collecting.callAll (Run.start c) calls)
  rw [htold] at hterrors htlog
  rw [hctold] at hcerrors hclog
  have hsteps : ∀ step ∈ requests.map (Run.Request.on name), ¬ step.Replaces name := by
    intro step hstep
    obtain ⟨q, -, rfl⟩ := List.mem_map.mp hstep
    exact q.not_replaces name
  have hkept := runs_afterAll_start Run.standsFor_collecting s name c hsteps
  rw [hccalls] at hkept
  obtain ⟨added, hadded, hwritten⟩ := hmirrors.errors_tracing
  refine ⟨htanswers.trans hcanswers.symm, htcalls.trans hccalls.symm,
    ⟨_, added, hkept, hadded, ?_⟩, ?_, ?_, ?_⟩
  · rw [hterrors, hwritten]
  · rw [hcerrors, hmirrors.errors_collecting]
  · rw [htlog, htcalls, hmirrors.log_tracing, Run.checkEntries_flatMap_traced]
  · rw [hclog, hccalls, hmirrors.log_collecting, Run.checkEntries_flatMap_finishes]

end Session

/-- Whether a run writes its failures to the log or keeps them changes neither its reports nor what
it answers, and the log says what would have been kept, be it beside failures that were kept before:
as calls on a run, as requests in a session, and as checks without a run, which write no errors. -/
theorem log_mirrors_failures :
    (∀ (c : Collecting) (calls : List Run.Call), Run.Mirrors c.failures calls
      ((Run.start (⟨⟩ : Tracing)).callAll calls) ((Run.start c).callAll calls)) ∧
    (∀ (s : Session) (name : String) (c : Collecting) (requests : List Run.Request),
      Session.RequestsMirror name c.failures (requests.map (Run.Request.on name))
        (s.setRun name (.start (.tracing ⟨⟩))) (s.setRun name (.start (.collecting c)))) ∧
    ∀ (s : Session) (source : Source),
      errors (logOf (s.step (.check source)).events) = [] ∧
      (s.step (.assertLoads source)).events = (s.step (.check source)).events ∧
      s.FinishesOnce source :=
  ⟨Run.mirrors_callAll, Session.requestsMirror, fun s source =>
    ⟨s.errors_check source, s.events_assertLoads source, s.finishesOnce source⟩⟩

end GrammarLoad
