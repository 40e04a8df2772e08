import GrammarLoad.Proofs.ConfiguredRun
import GrammarLoad.Proofs.EntryPoints
import GrammarLoad.Proofs.Questions

/-!
The label of a binding. Its provider bears the name of the binding, and so does every report that
is made for it, whether the check passes, fails, or has no provider to check. The name is made
from the path as it is shown, so paths that are text have names of their own.
-/
namespace GrammarLoad

namespace Binding

/-- The path of the library, if there is one, is text. -/
def Textual : Binding → Prop
  | linked => True
  | library p => (text? p.bytes).isSome

theorem name_library_ne_linked (p : Path) : (library p).name ≠ linked.name := by
  intro h
  change "library:" ++ p.display = "linked" at h
  have hc := congrArg String.toList h
  simp at hc

/-- Bindings to paths that are text are told apart by their names. -/
theorem eq_of_name_eq {b c : Binding} (hb : b.Textual) (hc : c.Textual) (h : b.name = c.name) :
    b = c := by
  cases b with
  | linked =>
    cases c with
    | linked => rfl
    | library q => exact absurd h.symm (name_library_ne_linked q)
  | library p =>
    cases c with
    | linked => exact absurd h (name_library_ne_linked p)
    | library q =>
      have hshown : p.display = q.display := (String.append_right_inj "library:").mp h
      have hpath : p = q := by
        calc
          p = .ofText p.display := (Path.ofText_display hb).symm
          _ = .ofText q.display := by rw [hshown]
          _ = q := Path.ofText_display hc
      exact congrArg library hpath

end Binding

theorem binding_of_check {binding : String} {answer : Except ProviderError Handle} {r : Report}
    (h : check binding answer = .ok r) : r.binding = binding := by
  rw [← reportOf_eq_of_check h]
  exact Run.binding_reportOf binding answer

namespace Session

variable {s : Session} {b : Binding}

/-- Whatever is made for a binding bears its name, at once or when its provider is used later. -/
structure Labels (s : Session) (b : Binding) : Prop where
  provided : ∀ g, (s.world.provide b).1 = .ok g → g.binding = b.name
  checked : ∀ source r, source.direct = .binding b →
    (s.step (.check source)).answer = .report r → r.binding = b.name
  returned : ∀ name source summary r, source.direct = .binding b →
    (s.step (.runCheck name source)).answer = .ran summary (.ok r) → r.binding = b.name
  kept : ∀ name run source, s.runs name = some run → source.direct = .binding b →
    ∃ next added, (s.step (.runCheck name source)).after.runs name = some next ∧
      next.reports = run.reports ++ added ∧ ∀ r ∈ added, r.binding = b.name
  later : ∀ {σ : Type} [Reporter σ] (run : Run σ) g answer, (s.world.provide b).1 = .ok g →
    ∃ r, (run.check g.binding answer).1.reports = run.reports ++ [r] ∧ r.binding = b.name
  configured : ∀ {σ : Type} [Reporter σ] (own : σ), s.world.chooseBinding = .ok b →
    ∃ r, (s.world.configuredRun own).1.reports = [r] ∧ r.binding = b.name ∧
      ∀ e, (s.world.provide b).1 = .error e → r = .ofError b.name e

/-- A binding supplies a provider that bears its name, or none. -/
theorem supply_binding (s : Session) (b : Binding) :
    (∃ p events t, s.supply (.binding b) = (.provider p, events, t) ∧ p.binding = b.name) ∨
      ∃ e events t, s.supply (.binding b) = (.failed e, events, t) := by
  unfold supply
  rcases hp : s.world.provide b with ⟨e | g, events, w⟩
  · exact .inr ⟨e, events, _, rfl⟩
  · have hname : g.binding = b.name := World.binding_of_provide (congrArg Prod.fst hp)
    exact .inl ⟨.bound g, events, _, rfl, hname⟩

theorem step_check_of_direct {source : Source} (hsource : source.direct = .binding b) :
    s.step (.check source) = s.step (.check (.binding b)) := by
  rw [← hsource]
  exact (s.step_direct (.check source)).symm

theorem step_runCheck_of_direct (name : String) {source : Source}
    (hsource : source.direct = .binding b) :
    s.step (.runCheck name source) = s.step (.runCheck name (.binding b)) := by
  rw [← hsource]
  exact (s.step_direct (.runCheck name source)).symm

theorem binding_of_checked {source : Source} {r : Report} (hsource : source.direct = .binding b)
    (h : (s.step (.check source)).answer = .report r) : r.binding = b.name := by
  rw [step_check_of_direct hsource] at h
  rcases s.supply_binding b with ⟨p, events, t, hs, hname⟩ | ⟨e, events, t, hs⟩
  · rw [answer_check_of_supply hs, reportAnswer_eq_report_iff] at h
    rw [binding_of_check h, hname]
  · simp only [step, useProvider, hs] at h
    cases h

theorem binding_of_ran {name : String} {source : Source} {summary : Summary} {r : Report}
    (hsource : source.direct = .binding b)
    (h : (s.step (.runCheck name source)).answer = .ran summary (.ok r)) :
    r.binding = b.name := by
  rw [step_runCheck_of_direct name hsource] at h
  cases hrun : s.runs name with
  | none =>
    simp only [step, hrun, quiet] at h
    cases h
  | some run =>
    rcases s.supply_binding b with ⟨p, events, t, hs, hname⟩ | ⟨e, events, t, hs⟩
    · simp only [step, hrun, runCheck, hs, Answer.ran.injEq, Except.ok.injEq] at h
      rw [← h.2, Run.binding_reportOf, hname]
    · simp only [step, hrun, runCheck, hs] at h
      cases h

/-- A run keeps one more report, which bears the name, or stays as it was. -/
theorem kept_of_runCheck {name : String} {run : Run Recorder} {source : Source}
    (hrun : s.runs name = some run) (hsource : source.direct = .binding b) :
    ∃ next added, (s.step (.runCheck name source)).after.runs name = some next ∧
      next.reports = run.reports ++ added ∧ ∀ r ∈ added, r.binding = b.name := by
  rw [step_runCheck_of_direct name hsource]
  rcases s.supply_binding b with ⟨p, events, t, hs, hname⟩ | ⟨e, events, t, hs⟩
  · refine ⟨_, [Run.reportOf p.binding (t.answerOf p)], runs_runCheck_of_supply hrun hs,
      Run.reports_check run _ _, ?_⟩
    intro r hr
    obtain rfl := List.mem_singleton.mp hr
    rw [Run.binding_reportOf, hname]
  · have hidle := (idle_of_supply hrun hs nofun).2.2.2
    exact ⟨run, [], hidle, (List.append_nil _).symm, nofun⟩

theorem labels (s : Session) (b : Binding) : s.Labels b := by
  constructor
  · intro g hg
    exact World.binding_of_provide hg
  · intro source r hsource h
    exact binding_of_checked hsource h
  · intro name source summary r hsource h
    exact binding_of_ran hsource h
  · intro name run source hrun hsource
    exact kept_of_runCheck hrun hsource
  · intro σ _ run g answer hg
    refine ⟨Run.reportOf g.binding answer, run.reports_check g.binding answer, ?_⟩
    rw [Run.binding_reportOf, World.binding_of_provide hg]
  · intro σ _ own hchosen
    refine ⟨s.world.configuredReport, s.world.reports_configuredRun own,
      World.binding_configuredReport hchosen, ?_⟩
    intro e he
    unfold World.configuredReport
    rw [hchosen]
    simp only [he]

end Session

/-- Each binding has one label, in every session: its name, which no unbound run has and which
tells it from all other bindings to paths that are text. -/
theorem every_binding_has_one_label (s : Session) :
    (∀ b, s.Labels b ∧ b.name ≠ "unbound") ∧
    ∀ b c : Binding, b.Textual → c.Textual → b.name = c.name → b = c :=
  ⟨fun b => ⟨s.labels b, b.name_ne_unbound⟩, fun _ _ hb hc h => Binding.eq_of_name_eq hb hc h⟩

/-- A world that names a library which is not there. -/
def namesMissing : World :=
  { emptyWorld with environment :=
      emptyWorld.environment.set Environment.libraryVariable (some (utf8 "x.so")) }

theorem every_binding_has_one_label_missing :
    ∃ r, (namesMissing.configuredRun (⟨[]⟩ : Collecting)).1.reports = [r] ∧
      r.binding = "library:x.so" := by
  have hlabels := (every_binding_has_one_label (.start namesMissing)).1 (.library (.ofText "x.so"))
  obtain ⟨r, hr, hname, -⟩ := hlabels.1.configured (⟨[]⟩ : Collecting) rfl
  exact ⟨r, hr, hname.trans (by decide +kernel)⟩

/-- Paths that are no text may be shown alike. -/
example : (Binding.library ⟨[0xFF]⟩).name = (Binding.library ⟨[0xFE]⟩).name := rfl

end GrammarLoad
