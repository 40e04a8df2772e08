import GrammarLoad.World

/-!
A configured run ends in one report, whatever the environment asks for. Its report does not depend
on the reporter. It says which binding was chosen, and it passes exactly when that binding has a
language in the parser's range; a missing linked grammar is never asked for its language.
-/
namespace GrammarLoad

open Discovery

theorem Binding.name_ne_unbound (b : Binding) : b.name ≠ World.unbound := by
  intro h
  cases b with
  | linked =>
    change "linked" = "unbound" at h
    simp at h
  | library p =>
    change "library:" ++ p.display = "unbound" at h
    have hc := congrArg String.toList h
    simp at hc

namespace World

/-- No library is named, no grammar is linked, and no candidate is a file. -/
def NothingToBind (w : World) : Prop :=
  w.linked = .absent ∧
  (w.environment Environment.libraryVariable = none ∨
    w.environment Environment.libraryVariable = some []) ∧
  ∀ c ∈ allCandidates (w.environment.searchPaths w.host), w.files.isFile c = false

/-- The report that a configured run ends in. -/
def configuredReport (w : World) : Report :=
  match w.chooseBinding with
  | .error e => .ofError unbound e
  | .ok b =>
    let made := w.provide b
    match made.1 with
    | .error e => .ofError b.name e
    | .ok bound => Run.reportOf bound.binding (bound.ask made.2.2.linked made.2.2.loaded)

variable {σ : Type} [Reporter σ]

theorem reports_configuredRun (w : World) (s : σ) :
    (w.configuredRun s).1.reports = [w.configuredReport] := by
  unfold configuredRun configuredReport
  cases w.chooseBinding with
  | error e => rfl
  | ok b =>
    dsimp only
    rcases w.provide b with ⟨made, events, after⟩
    cases made <;> rfl

theorem chooseBinding_eq_error_iff {w : World} {e : ProviderError} :
    w.chooseBinding = .error e ↔ w.NothingToBind ∧
      e = .notFound (allCandidates (w.environment.searchPaths w.host)) := by
  unfold NothingToBind
  rw [← Environment.path?_eq_none_iff]
  cases hp : w.environment.path? Environment.libraryVariable with
  | some p => simp [chooseBinding_of_library hp]
  | none =>
    cases hl : w.linked.isAvailable with
    | true =>
      have hne : w.linked ≠ .absent := by
        intro h
        simp [h, LinkedGrammar.isAvailable] at hl
      simp [chooseBinding_of_linked hp hl, hne]
    | false =>
      have habsent : w.linked = .absent := LinkedGrammar.isAvailable_eq_false_iff.mp hl
      rw [chooseBinding_of_search hp hl]
      have hf := @findLibrary_eq_error_iff w.files (w.environment.searchPaths w.host) e
      cases hfound : findLibrary w.files (w.environment.searchPaths w.host) with
      | ok p => simpa [Except.map, hfound, habsent] using hf
      | error e' => simpa [Except.map, hfound, habsent] using hf

theorem provide_eq_error_iff {w : World} {b : Binding} {e : ProviderError} :
    (w.provide b).1 = .error e ↔ ∃ p, b = .library p ∧ (w.openLibrary p).1 = .error e := by
  cases b with
  | linked => simp [provide]
  | library p =>
    simp only [provide, Binding.library.injEq, exists_eq_left']
    cases (w.openLibrary p).1 <;> simp [Except.map]

/-- The report carries the binding's name, whether or not it can be provided. -/
theorem binding_configuredReport {w : World} {b : Binding} (hb : w.chooseBinding = .ok b) :
    w.configuredReport.binding = b.name := by
  unfold configuredReport
  rw [hb]
  cases hp : (w.provide b).1 with
  | error e => simp [hp, Report.ofError_eq]
  | ok bound =>
    have hname : bound.binding = b.name := binding_of_provide hp
    simp [hp, hname, Run.binding_reportOf]

end World

end GrammarLoad
