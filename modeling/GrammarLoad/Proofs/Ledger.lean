import Mathlib.Algebra.Ring.Nat
import GrammarLoad.Proofs.Calls

/-!
The ledger of a collecting run. Its reports, the failures that its collector was handed, the count
of failures and the verdict are kept apart, and they agree after any calls: each call leaves one
report, which passed or has one failure, and the collector holds the failures of all reports in
order, after those that it came with.
-/
namespace GrammarLoad

theorem ProviderError.message_ne_empty (e : ProviderError) : e.message ≠ "" := by
  intro h
  have hlead := e.take_message
  rw [h] at hlead
  unfold Kind.lead at hlead
  cases hk : e.kind <;> rw [hk] at hlead <;> simp at hlead

theorem Incompatible.message_ne_empty (i : Incompatible) : i.message ≠ "" := by
  intro h
  have hlead := i.take_message
  rw [h] at hlead
  simp at hlead

namespace Failure

/-- What a failure of the check says: the fixed message, and a detail exactly where the grammar was
not just unavailable. -/
structure Telling (f : Failure) : Prop where
  message : f.message = fixedMessage
  detail : f.detail = none ↔ f.kind = .grammarUnavailable
  detail_ne_empty : f.detail ≠ some ""

theorem telling_unavailable : unavailable.Telling :=
  ⟨rfl, iff_of_true rfl rfl, nofun⟩

theorem telling_incompatible (i : Incompatible) : (incompatible i).Telling :=
  ⟨rfl, iff_of_false nofun nofun, fun h => i.message_ne_empty (Option.some.inj h)⟩

theorem telling_provider (e : ProviderError) : (provider e).Telling :=
  ⟨rfl, iff_of_false nofun nofun, fun h => e.message_ne_empty (Option.some.inj h)⟩

end Failure

namespace Report

/-- A check that is over: it passed without a failure, or it failed with exactly one. -/
structure Ended (r : Report) : Prop where
  name : r.name = checkName
  ending : r.state = .passed ∧ r.failures = [] ∨ r.state = .failed ∧ ∃ f, r.failures = [f]
  telling : ∀ f ∈ r.failures, f.Telling

theorem ended_passed (binding : String) : Ended ⟨checkName, binding, .passed, []⟩ :=
  ⟨rfl, .inl ⟨rfl, rfl⟩, nofun⟩

theorem ended_failed (binding : String) {f : Failure} (h : f.Telling) :
    Ended ⟨checkName, binding, .failed, [f]⟩ := by
  refine ⟨rfl, .inr ⟨rfl, f, rfl⟩, ?_⟩
  intro g hg
  obtain rfl := List.mem_singleton.mp hg
  exact h

/-- The failures of a report, each with the name of the binding. -/
def handed (r : Report) : List (String × Failure) := r.failures.map fun f => (r.binding, f)

theorem Ended.passed_iff {r : Report} (h : r.Ended) : r.passed = true ↔ r.failures = [] := by
  rcases h.ending with ⟨hs, hf⟩ | ⟨hs, f, hf⟩ <;> simp [passed, hs, hf]

theorem Ended.length_handed {r : Report} (h : r.Ended) :
    r.handed.length = if r.passed then 0 else 1 := by
  rcases h.ending with ⟨hs, hf⟩ | ⟨hs, f, hf⟩ <;> simp [handed, passed, hs, hf]

end Report

namespace Run

theorem Call.ended_report (c : Call) : c.report.Ended := by
  cases c with
  | check binding answer =>
    show (reportOf binding answer).Ended
    rcases reportOf_cases binding answer with
      ⟨_, -, -, hr⟩ | ⟨_, -, -, hr⟩ | ⟨_, i, -, -, -, hr⟩ | ⟨e, -, hr⟩ <;> rw [hr]
    · exact Report.ended_passed binding
    · exact Report.ended_failed binding Failure.telling_unavailable
    · exact Report.ended_failed binding (Failure.telling_incompatible i)
    · exact Report.ended_failed binding (Failure.telling_provider e)
  | recordError binding e =>
    show (Report.ofError binding e).Ended
    rw [Report.ofError_eq]
    exact Report.ended_failed binding (Failure.telling_provider e)

theorem failureCount_eq_sum {σ : Type} [Reporter σ] (run : Run σ) :
    run.failureCount = (run.reports.map fun r => r.failures.length).sum := by
  unfold failureCount
  induction run.reports with
  | nil => rfl
  | cons r rest ih => simp [ih]

theorem failureCount_eq_length {σ : Type} [Reporter σ] (run : Run σ) :
    run.failureCount = (run.reports.flatMap Report.handed).length := by
  rw [failureCount_eq_sum, List.length_flatMap]
  simp [Report.handed]

/-- Where every report is over, the failures are as many as the reports that did not pass. -/
theorem length_flatMap_handed {rs : List Report} (h : ∀ r ∈ rs, r.Ended) :
    (rs.flatMap Report.handed).length = (rs.filter fun r => !r.passed).length := by
  induction rs with
  | nil => rfl
  | cons r rest ih =>
    have hr := (h r List.mem_cons_self).length_handed
    have hrest := ih fun r' hr' => h r' (List.mem_cons_of_mem r hr')
    rw [List.flatMap_cons, List.length_append, hr, hrest]
    cases hp : r.passed with
    | true => simp [hp]
    | false =>
      simp [hp]
      omega

theorem passed_iff_filter {σ : Type} [Reporter σ] {run : Run σ} :
    run.passed = true ↔ (run.reports.filter fun r => !r.passed).length = 0 := by
  simp [passed, List.filter_eq_nil_iff]

/-- What a collecting run has kept of its calls, as its reports, its collector, its count and its
verdict tell it. The collector may have come with failures of its own. -/
structure Ledger (run : Run Collecting) (initial : List (String × Failure)) (calls : List Call) :
    Prop where
  reports : run.reports = calls.map Call.report
  ended : ∀ r ∈ run.reports, r.Ended
  collected : run.reporter.failures = initial ++ run.reports.flatMap Report.handed
  count_collected : run.reporter.failures.length = initial.length + run.failureCount
  count_failed : run.failureCount = (run.reports.filter fun r => !r.passed).length
  passed_iff : run.passed = true ↔ run.failureCount = 0

namespace Ledger

variable {initial : List (String × Failure)} {run : Run Collecting} {calls : List Call}

/-- The reports and the collector settle the rest. -/
theorem of_collected (hreports : run.reports = calls.map Call.report)
    (hcollected : run.reporter.failures = initial ++ run.reports.flatMap Report.handed) :
    run.Ledger initial calls := by
  have hended : ∀ r ∈ run.reports, r.Ended := by
    intro r hr
    rw [hreports] at hr
    obtain ⟨c, -, rfl⟩ := List.mem_map.mp hr
    exact c.ended_report
  have hcount := run.failureCount_eq_length
  have hfailed : run.failureCount = (run.reports.filter fun r => !r.passed).length :=
    hcount.trans (length_flatMap_handed hended)
  exact ⟨hreports, hended, hcollected, by rw [hcount, hcollected, List.length_append], hfailed,
    by rw [hfailed]; exact passed_iff_filter⟩

theorem start (c : Collecting) : (Run.start c).Ledger c.failures [] :=
  of_collected rfl (List.append_nil _).symm

theorem call (h : run.Ledger initial calls) (c : Call) :
    (run.call c).1.Ledger initial (calls ++ [c]) := by
  apply of_collected
  · rw [reports_call, h.reports, List.map_append]
    rfl
  · rw [reporter_call, handOver_collecting, reports_call, h.collected, List.flatMap_append]
    simp [Report.handed]

theorem callAll (h : run.Ledger initial calls) (more : List Call) :
    (run.callAll more).1.Ledger initial (calls ++ more) := by
  induction more generalizing run calls with
  | nil =>
    rw [List.append_nil]
    exact h
  | cons c rest ih =>
    have hrest := ih (h.call c)
    rwa [List.append_assoc] at hrest

end Ledger

end Run

/-- After any calls a collecting run is a ledger of them, which begins with what its collector came
with. So it is in a session, whatever steps are taken besides, as long as they do not replace the
run; and the reporter that is taken from the run is the collector of this ledger. -/
theorem collecting_run_keeps_ledger (c : Collecting) :
    (∀ calls, ((Run.start c).callAll calls).1.Ledger c.failures calls) ∧
    ∀ (s : Session) (name : String) (steps : List Step), (∀ step ∈ steps, ¬ step.Replaces name) →
      ∃ run : Run Collecting,
        run.Ledger c.failures ((s.setRun name (.start (.collecting c))).callsOn name steps) ∧
        ((s.setRun name (.start (.collecting c))).afterAll steps).runs name =
          some (run.mapReporter .collecting) ∧
        (((s.setRun name (.start (.collecting c))).afterAll steps).step
          (.takeReporter name)).answer =
            .recorder (.collecting ⟨c.failures ++ run.reports.flatMap Report.handed⟩) := by
  refine ⟨fun calls => (Run.Ledger.start c).callAll calls, ?_⟩
  intro s name steps hsteps
  have hruns := Session.runs_afterAll_start Run.standsFor_collecting s name c hsteps
  have hledger := (Run.Ledger.start c).callAll
    ((s.setRun name (.start (.collecting c))).callsOn name steps)
  refine ⟨_, hledger, hruns, ?_⟩
  simp only [Session.step, hruns]
  rw [← hledger.collected]
  rfl

end GrammarLoad
