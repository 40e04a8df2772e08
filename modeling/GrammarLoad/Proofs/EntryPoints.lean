import GrammarLoad.Proofs.Ledger

/-!
One provider, used through each of the entry points. The check, the assertion and the check within a
run tell one outcome, each in its own terms. A run keeps the report of the check or, where there is
none, does as if the provider's error was recorded by itself. An assertion gives way exactly where
the run gets a failure, and in the words of that failure.
-/
namespace GrammarLoad

/-- The words in which an assertion gives way. They name the binding unless the provider itself
failed. -/
def Failure.alarm (binding : String) (f : Failure) : String :=
  f.text ++ if f.kind = .providerFailed then "" else " (binding: " ++ binding ++ ")"

section

variable {binding : String} {answer : Except ProviderError Handle}

/-- An assertion puts the first failure into words that a run would record. -/
theorem assertLoads_eq_alarm (binding : String) (answer : Except ProviderError Handle) :
    assertLoads binding answer =
      (Run.reportOf binding answer).failures.head?.map (Failure.alarm binding) := by
  cases answer with
  | error e =>
    change some (Failure.fixedMessage ++ ": " ++ e.message) =
      (Report.ofError binding e).failures.head?.map (Failure.alarm binding)
    rw [Report.ofError_eq]
    simp [Failure.alarm, Failure.provider, Failure.text]
  | ok h =>
    change ((Report.ofHandle binding h).failures.head?.map fun f =>
        f.text ++ " (binding: " ++ (Report.ofHandle binding h).binding ++ ")") =
      (Report.ofHandle binding h).failures.head?.map (Failure.alarm binding)
    rcases Report.ofHandle_cases binding h with ⟨-, hr⟩ | ⟨-, hr⟩ | ⟨i, -, -, hr⟩ <;> rw [hr]
    · rfl
    · simp [Failure.alarm, Failure.unavailable, String.append_assoc]
    · simp [Failure.alarm, Failure.incompatible, String.append_assoc]

theorem passed_reportOf_iff :
    (Run.reportOf binding answer).passed = true ↔ (Run.reportOf binding answer).failures = [] :=
  (Run.Call.ended_report (.check binding answer)).passed_iff

theorem assertLoads_eq_none_iff :
    assertLoads binding answer = none ↔ (Run.reportOf binding answer).passed = true := by
  rw [assertLoads_eq_alarm, Option.map_eq_none_iff, List.head?_eq_none_iff, passed_reportOf_iff]

/-- A run never takes a provider's error for a pass. -/
theorem check_passes_iff :
    (∃ r, check binding answer = .ok r ∧ r.passed = true) ↔
      (Run.reportOf binding answer).passed = true := by
  cases answer with
  | error e =>
    have hfails : (Run.reportOf binding (.error e)).passed = false := by
      change (Report.ofError binding e).passed = false
      rw [Report.ofError_eq]
      rfl
    constructor
    · rintro ⟨r, hr, -⟩
      exact nomatch hr
    · intro hpassed
      rw [hfails] at hpassed
      exact nomatch hpassed
  | ok h =>
    constructor
    · rintro ⟨r, hr, hpassed⟩
      obtain rfl := Except.ok.inj hr
      exact hpassed
    · intro hpassed
      exact ⟨.ofHandle binding h, rfl, hpassed⟩

theorem reportOf_eq_of_check {r : Report} (h : check binding answer = .ok r) :
    Run.reportOf binding answer = r := by
  unfold Run.reportOf
  rw [h]

/-- Where an assertion gives way, a run gets one failure. -/
theorem exists_failure_of_alarm {text : String} (h : assertLoads binding answer = some text) :
    ∃ f, Run.reportOf binding answer = ⟨Report.checkName, binding, .failed, [f]⟩ ∧
      text = f.alarm binding := by
  rw [assertLoads_eq_alarm] at h
  rcases Run.reportOf_cases binding answer with
    ⟨_, -, -, hr⟩ | ⟨_, -, -, hr⟩ | ⟨_, i, -, -, -, hr⟩ | ⟨e, -, hr⟩ <;> rw [hr] at h
  · exact nomatch h
  · exact ⟨.unavailable, hr, (Option.some.inj h).symm⟩
  · exact ⟨.incompatible i, hr, (Option.some.inj h).symm⟩
  · exact ⟨.provider e, hr, (Option.some.inj h).symm⟩

end

namespace Run

variable {σ : Type} [Reporter σ]

/-- One answer of a provider, told by the check, by the assertion and by a run. -/
structure Agreement (run : Run σ) (binding : String) (answer : Except ProviderError Handle) :
    Prop where
  assert_iff : GrammarLoad.assertLoads binding answer = none ↔
    ∃ r, GrammarLoad.check binding answer = .ok r ∧ r.passed = true
  run_iff : (∃ r, GrammarLoad.check binding answer = .ok r ∧ r.passed = true) ↔
    ∃ r, (run.check binding answer).1.reports = run.reports ++ [r] ∧ r.passed = true
  of_report : ∀ r, GrammarLoad.check binding answer = .ok r →
    (run.check binding answer).1.reports = run.reports ++ [r]
  of_error : ∀ e, GrammarLoad.check binding answer = .error e →
    run.check binding answer = run.recordError binding e
  of_alarm : ∀ text, GrammarLoad.assertLoads binding answer = some text →
    ∃ f, (run.check binding answer).1.reports =
        run.reports ++ [⟨Report.checkName, binding, .failed, [f]⟩] ∧
      text = f.alarm binding

theorem appends_passed_iff {run : Run σ} {binding : String}
    {answer : Except ProviderError Handle} :
    (∃ r, (run.check binding answer).1.reports = run.reports ++ [r] ∧ r.passed = true) ↔
      (reportOf binding answer).passed = true := by
  rw [reports_check]
  constructor
  · rintro ⟨r, hr, hpassed⟩
    have hlast : reportOf binding answer = r := by simpa using hr
    rw [hlast]
    exact hpassed
  · intro hpassed
    exact ⟨reportOf binding answer, rfl, hpassed⟩

theorem agreement (run : Run σ) (binding : String) (answer : Except ProviderError Handle) :
    run.Agreement binding answer := by
  constructor
  · rw [assertLoads_eq_none_iff, check_passes_iff]
  · rw [check_passes_iff, appends_passed_iff]
  · intro r hr
    rw [reports_check, reportOf_eq_of_check hr]
  · intro e he
    have hreport : reportOf binding answer = .ofError binding e := by
      unfold reportOf
      rw [he]
    unfold check recordError
    rw [hreport, he]
    rfl
  · intro text htext
    obtain ⟨f, hr, hwords⟩ := exists_failure_of_alarm htext
    exact ⟨f, by rw [reports_check, hr], hwords⟩

end Run

namespace Session

variable {s t : Session} {name : String} {run : Run Recorder} {source : Source} {p : Provider}
  {made : Supply} {events : List Event}

/-- The entry points as steps that are taken in one session, where the run is there. -/
structure Agreement (s : Session) (name : String) (run : Run Recorder) (source : Source) :
    Prop where
  done_iff : (s.step (.assertLoads source)).answer = .done ↔
    ∃ r, (s.step (.check source)).answer = .report r ∧ r.passed = true
  passed_iff : (∃ r, (s.step (.check source)).answer = .report r ∧ r.passed = true) ↔
    ∃ next r, (s.step (.runCheck name source)).after.runs name = some next ∧
      next.reports = run.reports ++ [r] ∧ r.passed = true
  of_report : ∀ r, (s.step (.check source)).answer = .report r →
    ∃ next, (s.step (.runCheck name source)).after.runs name = some next ∧
      next.reports = run.reports ++ [r]
  of_error : ∀ p events t e, s.supply source = (.provider p, events, t) →
    (s.step (.check source)).answer = .error e →
      (s.step (.runCheck name source)).after.runs name =
        (t.step (.recordError name p.binding e)).after.runs name ∧
      (s.step (.runCheck name source)).events =
        events ++ (t.step (.recordError name p.binding e)).events
  of_panic : ∀ text, (s.step (.assertLoads source)).answer = .panic text →
    ∃ p events t next f, s.supply source = (.provider p, events, t) ∧
      (s.step (.runCheck name source)).after.runs name = some next ∧
      next.reports = run.reports ++ [⟨Report.checkName, p.binding, .failed, [f]⟩] ∧
      text = f.alarm p.binding

theorem runs_of_supply (hs : s.supply source = (made, events, t)) : t.runs = s.runs := by
  have hafter := s.after_supply source
  rw [hs] at hafter
  dsimp only at hafter
  rw [hafter]
  rfl

theorem reportAnswer_eq_report_iff {checked : Except ProviderError Report} {r : Report} :
    reportAnswer checked = .report r ↔ checked = .ok r := by
  cases checked <;> simp [reportAnswer]

theorem reportAnswer_eq_error_iff {checked : Except ProviderError Report} {e : ProviderError} :
    reportAnswer checked = .error e ↔ checked = .error e := by
  cases checked <;> simp [reportAnswer]

theorem answer_check_of_supply (hs : s.supply source = (.provider p, events, t)) :
    (s.step (.check source)).answer =
      reportAnswer (GrammarLoad.check p.binding (t.answerOf p)) := by
  simp only [step, useProvider, hs]

theorem answer_assertLoads_of_supply (hs : s.supply source = (.provider p, events, t)) :
    (s.step (.assertLoads source)).answer =
      (GrammarLoad.assertLoads p.binding (t.answerOf p)).elim .done .panic := by
  simp only [step, useProvider, hs]
  cases GrammarLoad.assertLoads p.binding (t.answerOf p) <;> rfl

theorem done_iff_of_supply (hs : s.supply source = (.provider p, events, t)) :
    (s.step (.assertLoads source)).answer = .done ↔
      GrammarLoad.assertLoads p.binding (t.answerOf p) = none := by
  rw [answer_assertLoads_of_supply hs]
  cases GrammarLoad.assertLoads p.binding (t.answerOf p) <;> simp

theorem panic_iff_of_supply {text : String} (hs : s.supply source = (.provider p, events, t)) :
    (s.step (.assertLoads source)).answer = .panic text ↔
      GrammarLoad.assertLoads p.binding (t.answerOf p) = some text := by
  rw [answer_assertLoads_of_supply hs]
  cases GrammarLoad.assertLoads p.binding (t.answerOf p) <;> simp

theorem runs_runCheck_of_supply (hrun : s.runs name = some run)
    (hs : s.supply source = (.provider p, events, t)) :
    (s.step (.runCheck name source)).after.runs name =
      some (run.check p.binding (t.answerOf p)).1 := by
  simp only [step, hrun, runCheck, hs]
  exact update_self _ _ _

/-- A check within a run that gets a provider's error is a record of this error. -/
theorem runCheck_of_error {e : ProviderError} (hrun : s.runs name = some run)
    (hs : s.supply source = (.provider p, events, t))
    (he : GrammarLoad.check p.binding (t.answerOf p) = .error e) :
    (s.step (.runCheck name source)).after.runs name =
        (t.step (.recordError name p.binding e)).after.runs name ∧
      (s.step (.runCheck name source)).events =
        events ++ (t.step (.recordError name p.binding e)).events := by
  have herror := (run.agreement p.binding (t.answerOf p)).of_error e he
  have hthere : t.runs name = some run := by
    rw [runs_of_supply hs]
    exact hrun
  constructor
  · rw [runs_runCheck_of_supply hrun hs, herror]
    simp only [step, hthere]
    exact (update_self _ _ _).symm
  · simp only [step, hrun, runCheck, hs, hthere, herror]

/-- Where there is no provider, nothing passes or gives way, and the run stays as it was. -/
theorem idle_of_supply (hrun : s.runs name = some run) (hs : s.supply source = (made, events, t))
    (hmade : ∀ p, made ≠ .provider p) :
    (∀ r, (s.step (.check source)).answer ≠ .report r) ∧
      (s.step (.assertLoads source)).answer ≠ .done ∧
      (∀ text, (s.step (.assertLoads source)).answer ≠ .panic text) ∧
      (s.step (.runCheck name source)).after.runs name = some run := by
  have hkept : t.runs name = some run := by
    rw [runs_of_supply hs]
    exact hrun
  cases made with
  | provider p => exact absurd rfl (hmade p)
  | failed e =>
    simp only [step, useProvider, hs, hrun, runCheck]
    exact ⟨by simp, by simp, by simp, hkept⟩
  | unknown =>
    simp only [step, useProvider, hs, hrun, runCheck]
    exact ⟨by simp, by simp, by simp, hkept⟩

theorem agreement_of_provider (hrun : s.runs name = some run)
    (hs : s.supply source = (.provider p, events, t)) : s.Agreement name run source := by
  have hagree := run.agreement p.binding (t.answerOf p)
  have hnext := runs_runCheck_of_supply hrun hs
  have hreport : ∀ r, (s.step (.check source)).answer = .report r ↔
      GrammarLoad.check p.binding (t.answerOf p) = .ok r := by
    intro r
    rw [answer_check_of_supply hs, reportAnswer_eq_report_iff]
  constructor
  · simp only [done_iff_of_supply hs, hreport]
    exact hagree.assert_iff
  · simp only [hreport, hnext]
    rw [hagree.run_iff]
    constructor
    · rintro ⟨r, hr, hpassed⟩
      exact ⟨_, r, rfl, hr, hpassed⟩
    · rintro ⟨next, r, heq, hr, hpassed⟩
      obtain rfl := Option.some.inj heq
      exact ⟨r, hr, hpassed⟩
  · intro r hr
    exact ⟨_, hnext, hagree.of_report r ((hreport r).mp hr)⟩
  · intro p' events' t' e hs' he
    obtain ⟨hp, hrest⟩ := Prod.mk.inj (hs'.symm.trans hs)
    obtain ⟨rfl, rfl⟩ := Prod.mk.inj hrest
    obtain rfl := Supply.provider.inj hp
    rw [answer_check_of_supply hs, reportAnswer_eq_error_iff] at he
    exact runCheck_of_error hrun hs he
  · intro text htext
    obtain ⟨f, hr, hwords⟩ := hagree.of_alarm text ((panic_iff_of_supply hs).mp htext)
    exact ⟨p, events, t, _, f, hs, hnext, hr, hwords⟩

theorem agreement_of_no_provider (hrun : s.runs name = some run)
    (hs : s.supply source = (made, events, t)) (hmade : ∀ p, made ≠ .provider p) :
    s.Agreement name run source := by
  obtain ⟨hreport, hdone, hpanic, hkept⟩ := idle_of_supply hrun hs hmade
  constructor
  · constructor
    · intro h
      exact absurd h hdone
    · rintro ⟨r, hr, -⟩
      exact absurd hr (hreport r)
  · constructor
    · rintro ⟨r, hr, -⟩
      exact absurd hr (hreport r)
    · rintro ⟨next, r, hnext, hr, -⟩
      rw [hkept] at hnext
      obtain rfl := Option.some.inj hnext
      exact absurd hr (by simp)
  · intro r hr
    exact absurd hr (hreport r)
  · intro p events' t' e hs' he
    exact absurd (Prod.mk.inj (hs.symm.trans hs')).1 (hmade p)
  · intro text htext
    exact absurd htext (hpanic text)

theorem agreement (hrun : s.runs name = some run) (source : Source) :
    s.Agreement name run source := by
  rcases hs : s.supply source with ⟨made, events, t⟩
  cases made with
  | provider p => exact agreement_of_provider hrun hs
  | failed e => exact agreement_of_no_provider hrun hs nofun
  | unknown => exact agreement_of_no_provider hrun hs nofun

end Session

/-- Check, assertion and run agree on every answer of every provider, whatever the run and its
reporter have kept so far. They agree as well as steps of a session that are taken at the same
point. -/
theorem entry_points_agree :
    (∀ {σ : Type} [Reporter σ] (run : Run σ) (binding : String)
      (answer : Except ProviderError Handle), run.Agreement binding answer) ∧
    ∀ (s : Session) (name : String) (run : Run Recorder) (source : Source),
      s.runs name = some run → s.Agreement name run source :=
  ⟨Run.agreement, fun _ _ _ source hrun => Session.agreement hrun source⟩

/-- A session with one run, which tells its failures to the log. -/
def oneRun : Session := (Session.fresh emptyWorld).afterAll [.newRun "a" (.tracing ⟨⟩)]

/-- A closure whose grammar is newer than the parser. -/
def tooNew : Source := .closure ⟨"new", "n", .ok (.language (some ⟨15⟩)), []⟩

theorem entry_points_agree_tooNew :
    (Run.start (⟨⟩ : Tracing)).check "new" (.error .notLinked) =
      (Run.start (⟨⟩ : Tracing)).recordError "new" .notLinked ∧
    oneRun.runs "a" = some (.start (.tracing ⟨⟩)) ∧
    ∃ p events t next f, oneRun.supply tooNew = (.provider p, events, t) ∧
      (oneRun.step (.runCheck "a" tooNew)).after.runs "a" = some next ∧
      next.reports = [⟨Report.checkName, p.binding, .failed, [f]⟩] ∧
      "Error loading Gloss grammar: incompatible language ABI version 15 (supported 13..=14)" ++
        " (binding: new)" = f.alarm p.binding := by
  obtain ⟨hrun, hsession⟩ := entry_points_agree
  have hthere : oneRun.runs "a" = some (.start (.tracing ⟨⟩)) := by decide +kernel
  have hpanic : (oneRun.step (.assertLoads tooNew)).answer = .panic
      ("Error loading Gloss grammar: incompatible language ABI version 15 (supported 13..=14)" ++
        " (binding: new)") := by rfl
  exact ⟨(hrun (.start (⟨⟩ : Tracing)) "new" (.error .notLinked)).of_error .notLinked rfl, hthere,
    (hsession oneRun "a" _ tooNew hthere).of_panic _ hpanic⟩

end GrammarLoad
