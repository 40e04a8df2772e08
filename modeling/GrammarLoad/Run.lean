import GrammarLoad.Event

/-!
A run of checks that share one reporter. A failing check does not stop the others: every report is
kept, and each of its failures is handed to the reporter before that.
-/
namespace GrammarLoad

/-- Something that is handed failures as checks finish. -/
class Reporter (σ : Type) where
  report : Report → Failure → σ → σ × List Event

/-- Keeps every failure with the name of its binding. -/
structure Collecting where
  failures : List (String × Failure)
  deriving DecidableEq, Repr

instance : Reporter Collecting where
  report r f c := (⟨c.failures ++ [(r.binding, f)]⟩, [])

/-- Tells every failure to the log and keeps none. -/
structure Tracing where
  deriving DecidableEq, Repr

instance : Reporter Tracing where
  report r f t := (t, [.failure r f])

/-- Keeps everything it is handed. -/
structure Transcript where
  handed : List (Report × Failure)
  deriving DecidableEq, Repr

instance : Reporter Transcript where
  report r f t := (⟨t.handed ++ [(r, f)]⟩, [])

/-- One of the three reporters. -/
inductive Recorder
  | collecting (c : Collecting)
  | tracing (t : Tracing)
  | transcript (t : Transcript)
  deriving DecidableEq, Repr

instance : Reporter Recorder where
  report r f
    | .collecting c => let told := Reporter.report r f c; (.collecting told.1, told.2)
    | .tracing t => let told := Reporter.report r f t; (.tracing told.1, told.2)
    | .transcript t => let told := Reporter.report r f t; (.transcript told.1, told.2)

variable {σ : Type} [Reporter σ]

/-- Hand over failures of one report, in order. -/
def handOver (r : Report) : List Failure → σ → σ × List Event
  | [], s => (s, [])
  | f :: rest, s =>
    let told := Reporter.report r f s
    let next := handOver r rest told.1
    (next.1, told.2 ++ next.2)

/-- Hand over the failures of several reports, in order. -/
def handOverAll : List Report → σ → σ × List Event
  | [], s => (s, [])
  | r :: rest, s =>
    let told := handOver r r.failures s
    let next := handOverAll rest told.1
    (next.1, told.2 ++ next.2)

structure Run (σ : Type) where
  reporter : σ
  reports : List Report
  deriving DecidableEq, Repr

namespace Run

def start (s : σ) : Run σ := ⟨s, []⟩

/-- Keep a report, after its failures were handed over. -/
def record (run : Run σ) (r : Report) : Run σ × List Event :=
  let told := handOver r r.failures run.reporter
  (⟨told.1, run.reports ++ [r]⟩, told.2)

/-- The report that a run keeps of a provider's answer. -/
def reportOf (binding : String) (answer : Except ProviderError Handle) : Report :=
  match GrammarLoad.check binding answer with
  | .ok r => r
  | .error e => .ofError binding e

/-- Check what a provider answered. -/
def check (run : Run σ) (binding : String) (answer : Except ProviderError Handle) :
    Run σ × List Event :=
  let next := run.record (reportOf binding answer)
  (next.1, checkEvents (GrammarLoad.check binding answer) ++ next.2)

/-- Record a provider that could not even be made. -/
def recordError (run : Run σ) (binding : String) (e : ProviderError) : Run σ × List Event :=
  run.record (.ofError binding e)

/-- The four ways in which a provider's answer is reported. -/
theorem reportOf_cases (binding : String) (answer : Except ProviderError Handle) :
    (∃ h, answer = .ok h ∧ h.Usable ∧
      reportOf binding answer = ⟨Report.checkName, binding, .passed, []⟩) ∨
    (∃ h, answer = .ok h ∧ h.isEmpty = true ∧
      reportOf binding answer = ⟨Report.checkName, binding, .failed, [.unavailable]⟩) ∨
    (∃ h i, answer = .ok h ∧ h.isEmpty = false ∧ h.attach = .error i ∧
      reportOf binding answer = ⟨Report.checkName, binding, .failed, [.incompatible i]⟩) ∨
    ∃ e, answer = .error e ∧
      reportOf binding answer = ⟨Report.checkName, binding, .failed, [.provider e]⟩ := by
  cases answer with
  | error e => exact .inr (.inr (.inr ⟨e, rfl, Report.ofError_eq binding e⟩))
  | ok h =>
    rcases Report.ofHandle_cases binding h with ⟨hu, hr⟩ | ⟨he, hr⟩ | ⟨i, he, ha, hr⟩
    · exact .inl ⟨h, rfl, hu, hr⟩
    · exact .inr (.inl ⟨h, rfl, he, hr⟩)
    · exact .inr (.inr (.inl ⟨h, i, rfl, he, ha, hr⟩))

theorem binding_reportOf (binding : String) (answer : Except ProviderError Handle) :
    (reportOf binding answer).binding = binding := by
  rcases reportOf_cases binding answer with
    ⟨_, -, -, hr⟩ | ⟨_, -, -, hr⟩ | ⟨_, _, -, -, -, hr⟩ | ⟨_, -, hr⟩ <;> rw [hr]

theorem state_reportOf (binding : String) (answer : Except ProviderError Handle) :
    (reportOf binding answer).state = .passed ∨ (reportOf binding answer).state = .failed := by
  rcases reportOf_cases binding answer with
    ⟨_, -, -, hr⟩ | ⟨_, -, -, hr⟩ | ⟨_, _, -, -, -, hr⟩ | ⟨_, -, hr⟩ <;> simp [hr]

theorem state_reportOf_eq_passed_iff {binding : String} {answer : Except ProviderError Handle} :
    (reportOf binding answer).state = .passed ↔ ∃ h, answer = .ok h ∧ h.Usable := by
  rcases reportOf_cases binding answer with
    ⟨h, rfl, hu, hr⟩ | ⟨h, rfl, he, hr⟩ | ⟨h, i, rfl, he, ha, hr⟩ | ⟨e, rfl, hr⟩
  · simp [hr, hu]
  · simp [hr, Handle.Usable, he]
  · simp [hr, Handle.Usable, ha]
  · simp [hr]

def failureCount (run : Run σ) : Nat :=
  run.reports.foldr (fun r count => r.failures.length + count) 0

/-- Whether every check so far passed. -/
def passed (run : Run σ) : Bool := run.reports.all Report.passed

theorem reports_check (run : Run σ) (binding : String) (answer : Except ProviderError Handle) :
    (run.check binding answer).1.reports = run.reports ++ [reportOf binding answer] := rfl

theorem reports_recordError (run : Run σ) (binding : String) (e : ProviderError) :
    (run.recordError binding e).1.reports = run.reports ++ [.ofError binding e] := rfl

end Run

theorem handOver_collecting (r : Report) (fs : List Failure) (c : Collecting) :
    handOver r fs c = (⟨c.failures ++ fs.map fun f => (r.binding, f)⟩, []) := by
  induction fs generalizing c with
  | nil => simp [handOver]
  | cons f rest ih => simp [handOver, Reporter.report, ih]

theorem handOver_tracing (r : Report) (fs : List Failure) (t : Tracing) :
    handOver r fs t = (t, fs.map fun f => .failure r f) := by
  induction fs with
  | nil => simp [handOver]
  | cons f rest ih => simp [handOver, Reporter.report, ih]

theorem handOver_transcript (r : Report) (fs : List Failure) (t : Transcript) :
    handOver r fs t = (⟨t.handed ++ fs.map fun f => (r, f)⟩, []) := by
  induction fs generalizing t with
  | nil => simp [handOver]
  | cons f rest ih => simp [handOver, Reporter.report, ih]

end GrammarLoad
