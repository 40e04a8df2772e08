import Mathlib.Data.List.Nodup
import GrammarLoad.Proofs.HandedOut
import GrammarLoad.Proofs.Ledger

/-!
Checks in one run do not affect each other. What a provider that is at hand answers depends on the
linked grammar, on what the slots hold, on the libraries that these call and on the counter of its
own closure, and neither the checks of other providers nor what goes on in other runs changes these.
So each check gets the report that it would get alone, in whatever order the checks are made.
Another run does take part where it asks a closure that is counted together with one of these.
-/
namespace GrammarLoad

namespace Provider

/-- The counter that counts the questions to a provider. -/
def counter? : Provider → Option String
  | bound _ => none
  | closure c => some c.counter
  | through p => p.counter?

/-- A question is counted once, by the provider's own counter. -/
theorem callsAfter_apply (calls : Calls) (p : Provider) (k : String) :
    p.callsAfter calls k = calls k + p.counter?.toList.count k := by
  induction p with
  | bound b => rfl
  | closure c =>
    by_cases hk : k = c.counter
    · simp [callsAfter, Calls.count, counter?, hk]
    · have hne : c.counter ≠ k := fun heq => hk heq.symm
      simp [callsAfter, Calls.count, counter?, hk, hne]
  | through p ih => exact ih

theorem callsAfter_of_ne {calls : Calls} {p : Provider} {k : String} (h : p.counter? ≠ some k) :
    p.callsAfter calls k = calls k := by
  have hnot : k ∉ p.counter?.toList := fun hmem => h (Option.mem_toList.mp hmem)
  rw [callsAfter_apply, List.count_eq_zero.mpr hnot, Nat.add_zero]

end Provider

/-- The counter that counts the questions to a source. -/
def Source.counter? : Source → Option String
  | .closure c => some c.counter
  | .through source => source.counter?
  | _ => none

namespace Step

/-- The run that a step works on. -/
def run? : Step → Option String
  | .newRun n _ | .runCheck n _ | .recordError n _ _ | .runState n | .takeReporter n
  | .configuredRun n _ => some n
  | _ => none

/-- The counter that counts what a step asks within a run. -/
def counter? : Step → Option String
  | .runCheck _ source => source.counter?
  | _ => none

theorem Replaces.run? {step : Step} {name : String} (h : step.Replaces name) :
    step.run? = some name := by
  cases step with
  | newRun n recorder => exact congrArg some h
  | takeReporter n => exact congrArg some h
  | configuredRun n recorder => exact congrArg some h
  | _ => exact h.elim

end Step

/-- Checks of some sources within one run, in order, among any operations on other runs that use
none of the given counters. -/
inductive Interleaves (name : String) (counters : List String) : List Source → List Step → Prop
  | nil : Interleaves name counters [] []
  | check {order : List Source} {steps : List Step} (source : Source)
      (h : Interleaves name counters order steps) :
      Interleaves name counters (source :: order) (.runCheck name source :: steps)
  | other {order : List Source} {steps : List Step} {step : Step} {n : String}
      (hrun : step.run? = some n) (hne : n ≠ name)
      (hapart : ∀ k ∈ counters, step.counter? ≠ some k)
      (h : Interleaves name counters order steps) :
      Interleaves name counters order (step :: steps)

namespace Session

/-- The provider that a source is, if no library need be opened for it. A grammar is one if it has a
function to call, as every grammar that was opened has. -/
def standing? (s : Session) : Source → Option Provider
  | .linked => some (.bound .linked)
  | .binding .linked => some (.bound .linked)
  | .binding (.library _) => none
  | .slot name =>
    ((s.slots name).filter fun g => (s.world.loaded.returns? g.file).isSome).map fun g =>
      .bound (.library g)
  | .closure c => some (.closure c)
  | .through source => (s.standing? source).map .through

/-- The report of a source that is the only one to be checked in a run. -/
def alone (s : Session) (source : Source) : Option Report :=
  match ((s.setRun "alone" (.start (.collecting ⟨[]⟩))).step (.runCheck "alone" source)).after.runs
      "alone" with
  | some ⟨_, [r]⟩ => some r
  | _ => none

variable {s t : Session} {name : String} {run : Run Recorder} {source : Source} {p : Provider}

/-- Every grammar at hand is one that can be checked. -/
theorem Reachable.standing?_slot (hs : s.Reachable) {n : String} {g : LibraryGrammar}
    (h : s.slots n = some g) : s.standing? (.slot n) = some (.bound (.library g)) := by
  obtain ⟨language, hcall⟩ := hs.backed.slots n g h
  simp [standing?, h, hcall]

theorem supply_of_standing (h : s.standing? source = some p) :
    ∃ events, s.supply source = (.provider p, events, s) := by
  induction source generalizing p with
  | linked =>
    obtain rfl := Option.some.inj h
    exact ⟨[], rfl⟩
  | binding b =>
    cases b with
    | linked =>
      obtain rfl := Option.some.inj h
      exact ⟨[.binding .linked], rfl⟩
    | library q => exact nomatch h
  | slot n =>
    obtain ⟨g, hg, rfl⟩ := Option.map_eq_some_iff.mp h
    obtain ⟨hslot, -⟩ := Option.filter_eq_some_iff.mp hg
    exact ⟨[], by simp only [supply, hslot]⟩
  | closure c =>
    obtain rfl := Option.some.inj h
    exact ⟨[], rfl⟩
  | through source ih =>
    obtain ⟨q, hq, rfl⟩ := Option.map_eq_some_iff.mp h
    obtain ⟨events, hs⟩ := ih hq
    exact ⟨events, by simp only [supply, hs, Supply.through]⟩

/-- Whatever provider a source comes to, it is counted by the source's counter. -/
theorem counter?_of_supply (h : (s.supply source).1 = .provider p) :
    p.counter? = source.counter? := by
  induction source generalizing p with
  | linked =>
    obtain rfl := Supply.provider.inj h
    rfl
  | binding b =>
    simp only [supply] at h
    rcases hb : s.world.provide b with ⟨bound | bound, told, w⟩ <;> rw [hb] at h
    · cases h
    · obtain rfl := Supply.provider.inj h
      rfl
  | slot n =>
    simp only [supply] at h
    rcases hg : s.slots n with _ | g <;> rw [hg] at h
    · cases h
    · obtain rfl := Supply.provider.inj h
      rfl
  | closure c =>
    obtain rfl := Supply.provider.inj h
    rfl
  | through source ih =>
    simp only [supply] at h
    rcases hmade : (s.supply source).1 with q | e | _ <;> rw [hmade] at h
    · obtain rfl := Supply.provider.inj h
      have hcounter := ih hmade
      exact hcounter
    · cases h
    · cases h

theorem counter?_of_standing (h : s.standing? source = some p) : p.counter? = source.counter? := by
  obtain ⟨events, hs⟩ := supply_of_standing h
  exact counter?_of_supply (s := s) (by rw [hs])

/-- A check of a standing source records the provider's answer and asks no one else. -/
theorem runCheck_of_standing (hrun : s.runs name = some run) (hp : s.standing? source = some p) :
    (s.step (.runCheck name source)).after =
      (s.asked p).setRun name (run.check p.binding (s.answerOf p)).1 := by
  obtain ⟨events, hs⟩ := supply_of_standing hp
  simp only [step, hrun, runCheck, hs]

theorem standing?_setRun (s : Session) (name : String) (run : Run Recorder) (source : Source) :
    (s.setRun name run).standing? source = s.standing? source := by
  induction source with
  | binding b => cases b <;> rfl
  | through source ih => simp only [standing?, ih]
  | _ => rfl

theorem alone_of_standing (h : s.standing? source = some p) :
    s.alone source = some (Run.reportOf p.binding (s.answerOf p)) := by
  have hnew : (s.setRun "alone" (.start (.collecting ⟨[]⟩))).standing? source = some p :=
    (standing?_setRun _ _ _ _).trans h
  unfold alone
  rw [runCheck_of_standing (update_self _ _ _) hnew]
  simp only [setRun, update_self]
  rfl

/-- What the answers of standing providers depend on, but for counters other than these, is the
same. -/
structure Alike (s t : Session) (counters : List String) : Prop where
  slots : t.slots = s.slots
  loaded : s.world.loaded.GrowsTo t.world.loaded
  linked : t.world.linked = s.world.linked
  calls : ∀ k ∈ counters, t.calls k = s.calls k

theorem Alike.standing {counters : List String} (h : s.Alike t counters)
    (hp : s.standing? source = some p) : t.standing? source = some p := by
  induction source generalizing p with
  | binding b => cases b <;> exact hp
  | slot n =>
    obtain ⟨g, hg, rfl⟩ := Option.map_eq_some_iff.mp hp
    obtain ⟨hslot, hcall⟩ := Option.filter_eq_some_iff.mp hg
    obtain ⟨language, hcall⟩ := Option.isSome_iff_exists.mp hcall
    simp [standing?, h.slots, hslot, h.loaded.returns? hcall]
  | through source ih =>
    obtain ⟨q, hq, rfl⟩ := Option.map_eq_some_iff.mp hp
    simp [standing?, ih hq]
  | _ => exact hp

theorem Alike.answerOf_eq {counters : List String} (h : s.Alike t counters)
    (hp : s.standing? source = some p) (hmem : ∀ k, source.counter? = some k → k ∈ counters) :
    t.answerOf p = s.answerOf p := by
  induction source generalizing p with
  | linked =>
    obtain rfl := Option.some.inj hp
    simp only [answerOf, Provider.answer, Bound.ask, h.linked]
  | binding b =>
    cases b with
    | linked =>
      obtain rfl := Option.some.inj hp
      simp only [answerOf, Provider.answer, Bound.ask, h.linked]
    | library q => cases hp
  | slot n =>
    obtain ⟨g, hg, rfl⟩ := Option.map_eq_some_iff.mp hp
    obtain ⟨language, hcall⟩ :=
      Option.isSome_iff_exists.mp (Option.filter_eq_some_iff.mp hg).2
    simp only [answerOf, Provider.answer, Bound.ask, LibraryGrammar.language_of_returns? hcall,
      LibraryGrammar.language_of_returns? (h.loaded.returns? hcall)]
  | closure c =>
    obtain rfl := Option.some.inj hp
    simp only [answerOf, Provider.answer, h.calls c.counter (hmem _ rfl)]
  | through source ih =>
    obtain ⟨q, hq, rfl⟩ := Option.map_eq_some_iff.mp hp
    have hanswer : t.answerOf q = s.answerOf q := ih hq hmem
    exact hanswer

theorem Alike.alone_eq {counters : List String} (h : s.Alike t counters)
    (hp : s.standing? source = some p) (hmem : ∀ k, source.counter? = some k → k ∈ counters) :
    t.alone source = s.alone source := by
  rw [alone_of_standing (h.standing hp), alone_of_standing hp, h.answerOf_eq hp hmem]

/-- A check of a standing source is counted by the source's counter. -/
theorem calls_runCheck_of_standing (hrun : s.runs name = some run)
    (hp : s.standing? source = some p) (k : String) :
    (s.step (.runCheck name source)).after.calls k =
      s.calls k + source.counter?.toList.count k := by
  rw [runCheck_of_standing hrun hp, ← counter?_of_standing hp]
  exact Provider.callsAfter_apply s.calls p k

/-- A source that is checked takes no part in what others depend on, as no counter comes twice. -/
theorem Alike.runCheck {later : List String} (h : s.Alike t (source.counter?.toList ++ later))
    (hnodup : (source.counter?.toList ++ later).Nodup) (hrun : t.runs name = some run)
    (hp : t.standing? source = some p) : s.Alike (t.step (.runCheck name source)).after later := by
  have hafter := runCheck_of_standing hrun hp
  refine ⟨by rw [hafter]; exact h.slots, h.loaded.trans (t.growsTo_step _),
    by rw [hafter]; exact h.linked, ?_⟩
  intro k hk
  have hnot : k ∉ source.counter?.toList := fun hmem =>
    (List.nodup_append.mp hnodup).2.2 k hmem k hk rfl
  rw [calls_runCheck_of_standing hrun hp, List.count_eq_zero.mpr hnot]
  exact h.calls k (List.mem_append_right _ hk)

/-- A step that works on a run touches no slot and no linked grammar, and counts what it asks. -/
theorem frame_of_run? {step : Step} {n : String} (hrun : step.run? = some n) :
    (s.step step).after.slots = s.slots ∧
      (s.step step).after.world.linked = s.world.linked ∧
      ∀ k, step.counter? ≠ some k → (s.step step).after.calls k = s.calls k := by
  cases step with
  | newRun m recorder => exact ⟨rfl, rfl, fun _ _ => rfl⟩
  | runCheck m source =>
    simp only [Session.step]
    cases hm : s.runs m with
    | none => exact ⟨rfl, rfl, fun _ _ => rfl⟩
    | some other =>
      obtain ⟨made, events, t, hs, rfl, hr⟩ := s.runCheck_eq m other source
      simp only [hr]
      cases made with
      | failed e => exact ⟨rfl, rfl, fun _ _ => rfl⟩
      | unknown => exact ⟨rfl, rfl, fun _ _ => rfl⟩
      | provider q =>
        refine ⟨rfl, rfl, fun k hk => ?_⟩
        have hcounter : q.counter? = source.counter? := counter?_of_supply (by rw [hs])
        have hne : q.counter? ≠ some k := by
          rw [hcounter]
          exact hk
        exact Provider.callsAfter_of_ne hne
  | recordError m binding e =>
    simp only [Session.step]
    cases s.runs m <;> exact ⟨rfl, rfl, fun _ _ => rfl⟩
  | runState m => exact ⟨rfl, rfl, fun _ _ => rfl⟩
  | takeReporter m =>
    simp only [Session.step]
    cases s.runs m <;> exact ⟨rfl, rfl, fun _ _ => rfl⟩
  | configuredRun m recorder =>
    have hafter := s.world.after_configuredRun recorder
    simp only [Session.step, hafter]
    exact ⟨rfl, rfl, fun _ _ => rfl⟩
  | _ => cases hrun

/-- A step that works on another run leaves this one. -/
theorem runs_step_of_other (hrun : s.runs name = some run) {step : Step} {n : String}
    (hn : step.run? = some n) (hne : n ≠ name) : (s.step step).after.runs name = some run := by
  have hkeeps : ¬ step.Replaces name := by
    intro hr
    exact hne (Option.some.inj (hn.symm.trans hr.run?))
  have hcall : s.callOn? name step = none := by
    cases step with
    | runCheck m source => simp [callOn?, Option.some.inj hn, hne]
    | recordError m binding e => simp [callOn?, Option.some.inj hn, hne]
    | _ => rfl
  rw [runs_step hrun hkeeps, hcall]
  rfl

end Session

theorem filterMap_counter?_cons (source : Source) (order : List Source) :
    (source :: order).filterMap Source.counter? =
      source.counter?.toList ++ order.filterMap Source.counter? := by
  cases h : source.counter? <;> simp [h]

open Session in
/-- Each check of the interleaving appends the report that its source gets alone, and nothing else
uses the source's counter. -/
theorem Interleaves.appends {name : String} {counters : List String} {order : List Source}
    {steps : List Step} (h : Interleaves name counters order steps) {s t : Session}
    {run : Run Recorder} (hrun : t.runs name = some run)
    (halike : s.Alike t (order.filterMap Source.counter?))
    (hstanding : ∀ source ∈ order, ∃ p, s.standing? source = some p)
    (hnodup : (order.filterMap Source.counter?).Nodup)
    (hcounters : ∀ k ∈ order.filterMap Source.counter?, k ∈ counters) :
    ∃ after appended, (t.afterAll steps).runs name = some after ∧
      after.reports = run.reports ++ appended ∧
      order.map s.alone = appended.map some ∧
      ∀ k ∈ counters,
        (t.afterAll steps).calls k = t.calls k + (order.filterMap Source.counter?).count k := by
  induction h generalizing t run with
  | nil => exact ⟨run, [], hrun, (List.append_nil _).symm, rfl, fun _ _ => rfl⟩
  | @check order steps source h ih =>
    rw [filterMap_counter?_cons] at halike hnodup hcounters
    obtain ⟨p, hp⟩ := hstanding source List.mem_cons_self
    have hpt : t.standing? source = some p := halike.standing hp
    have hruns : (t.step (.runCheck name source)).after.runs name =
        some (run.check p.binding (t.answerOf p)).1 := by
      rw [runCheck_of_standing hrun hpt]
      exact update_self _ _ _
    obtain ⟨after, appended, hlast, hreports, halone, hcount⟩ := ih hruns
      (halike.runCheck hnodup hrun hpt)
      (fun other hother => hstanding other (List.mem_cons_of_mem source hother))
      (List.nodup_append.mp hnodup).2.1
      (fun k hk => hcounters k (List.mem_append_right _ hk))
    have hmine : s.alone source = some (Run.reportOf p.binding (t.answerOf p)) := by
      rw [← alone_of_standing hpt]
      exact (halike.alone_eq hp fun k hk =>
        List.mem_append_left _ (Option.mem_toList.mpr hk)).symm
    refine ⟨after, Run.reportOf p.binding (t.answerOf p) :: appended, hlast, ?_, ?_, ?_⟩
    · rw [hreports, Run.reports_check, List.append_assoc]
      rfl
    · rw [List.map_cons, hmine, halone, List.map_cons]
    · intro k hk
      rw [filterMap_counter?_cons, List.count_append, ← Nat.add_assoc,
        ← calls_runCheck_of_standing hrun hpt]
      exact hcount k hk
  | other hn hne hapart h ih =>
    obtain ⟨hslots, hlinked, hcalls⟩ := frame_of_run? (s := t) hn
    have hruns := runs_step_of_other hrun hn hne
    obtain ⟨after, appended, hlast, hreports, halone, hcount⟩ := ih hruns
      ⟨hslots.trans halike.slots, halike.loaded.trans (t.growsTo_step _),
        hlinked.trans halike.linked, fun k hk =>
          (hcalls k (hapart k (hcounters k hk))).trans (halike.calls k hk)⟩
      hstanding hnodup hcounters
    refine ⟨after, appended, hlast, hreports, halone, ?_⟩
    intro k hk
    rw [← hcalls k (hapart k hk)]
    exact hcount k hk

/-- Each of the sources gets a report when it is checked alone. -/
theorem Session.exists_alone {s : Session} {sources : List Source}
    (h : ∀ source ∈ sources, ∃ p, s.standing? source = some p) :
    ∃ each : List Report, sources.map s.alone = each.map some := by
  induction sources with
  | nil => exact ⟨[], rfl⟩
  | cons source rest ih =>
    obtain ⟨p, hp⟩ := h source List.mem_cons_self
    obtain ⟨each, heach⟩ := ih fun other hother => h other (List.mem_cons_of_mem source hother)
    refine ⟨Run.reportOf p.binding (s.answerOf p) :: each, ?_⟩
    rw [List.map_cons, alone_of_standing hp, heach, List.map_cons]

namespace Run

variable {run after : Run Recorder} {appended each : List Report}

theorem passed_of_appended (h : after.reports = run.reports ++ appended)
    (hperm : appended.Perm each) : after.passed = (run.passed && each.all Report.passed) := by
  rw [passed, h, List.all_append, hperm.all_eq]
  rfl

theorem failureCount_of_appended (h : after.reports = run.reports ++ appended)
    (hperm : appended.Perm each) :
    after.failureCount = run.failureCount + (each.map fun r => r.failures.length).sum := by
  rw [failureCount_eq_sum, failureCount_eq_sum, h, List.map_append, List.sum_append,
    (hperm.map _).sum_nat]

end Run

/-- Sources at hand that are counted apart are checked in one run, in any order, among any
operations on other runs that use none of their counters. Then the run gains just the report that
each of them gets alone, in that order, whatever the run was before; and neither its verdict, nor
its count of failures, nor any of the counters depends on the order or on the other operations. -/
theorem checks_do_not_affect_each_other {s : Session} {name : String} {run : Run Recorder}
    {sources : List Source} (hrun : s.runs name = some run)
    (hstanding : ∀ source ∈ sources, ∃ p, s.standing? source = some p)
    (hapart : (sources.filterMap Source.counter?).Nodup) :
    ∃ each : List Report, sources.map s.alone = each.map some ∧
      ∀ order steps, order.Perm sources →
        Interleaves name (sources.filterMap Source.counter?) order steps →
        ∃ after appended, (s.afterAll steps).runs name = some after ∧
          after.reports = run.reports ++ appended ∧
          order.map s.alone = appended.map some ∧
          after.passed = (run.passed && each.all Report.passed) ∧
          after.failureCount =
            run.failureCount + (each.map fun r => r.failures.length).sum ∧
          ∀ k ∈ sources.filterMap Source.counter?, (s.afterAll steps).calls k = s.calls k + 1 := by
  obtain ⟨each, heach⟩ := Session.exists_alone hstanding
  refine ⟨each, heach, ?_⟩
  intro order steps horder hsteps
  have hcounters : (order.filterMap Source.counter?).Perm (sources.filterMap Source.counter?) :=
    horder.filterMap _
  obtain ⟨after, appended, hafter, hreports, halone, hcalls⟩ := hsteps.appends hrun
    ⟨rfl, .refl _, rfl, fun _ _ => rfl⟩ (fun source h => hstanding source (horder.mem_iff.mp h))
    (hcounters.nodup_iff.mpr hapart) (fun k hk => hcounters.mem_iff.mp hk)
  have hperm : appended.Perm each := by
    have halike := (horder.map s.alone).filterMap id
    rw [halone, heach] at halike
    simpa using halike
  refine ⟨after, appended, hafter, hreports, halone, Run.passed_of_appended hreports hperm,
    Run.failureCount_of_appended hreports hperm, ?_⟩
  intro k hk
  rw [hcalls k hk, hcounters.count_eq, List.nodup_iff_count_eq_one.mp hapart k hk]

def valid : Source := .closure ⟨"valid", "one", .ok (.pointer false), []⟩

/-- A closure that hands out a grammar once. -/
def spent : Source := .closure ⟨"spent", "two", .ok (.pointer false), [.ok (.pointer true)]⟩

/-- A library is at hand, and one run has a failure already. -/
def underWay : Session := (Session.fresh emptyWorld).afterAll [
  .changeFiles (.write (.ofText "/r/x.so") (.library (.language 14))),
  .openLibrary (.ofText "/r/x.so") "main",
  .newRun "a" (.tracing ⟨⟩),
  .recordError "a" "early" .notLinked]

/-- Three checks in the run, while other runs come and go. -/
def amongOthers : List Step := [
  .newRun "b" (.collecting ⟨[]⟩),
  .runCheck "a" spent,
  .runCheck "b" valid,
  .runCheck "a" .linked,
  .configuredRun "c" (.tracing ⟨⟩),
  .takeReporter "b",
  .runCheck "a" (.slot "main")]

theorem checks_do_not_affect_each_other_amongOthers :
    ∃ after appended, (underWay.afterAll amongOthers).runs "a" = some after ∧
      after.reports = [.ofError "early" .notLinked] ++ appended ∧
      [spent, .linked, .slot "main"].map underWay.alone = appended.map some ∧
      (underWay.afterAll amongOthers).calls "two" = underWay.calls "two" + 1 := by
  have hrun : underWay.runs "a" = some ⟨.tracing ⟨⟩, [.ofError "early" .notLinked]⟩ := by
    decide +kernel
  have hslot : underWay.slots "main" = some ⟨"library:/r/x.so", 3⟩ := by decide +kernel
  have hreachable : underWay.Reachable := ⟨emptyWorld, _, rfl⟩
  have hstanding : ∀ source ∈ [.slot "main", .linked, spent],
      ∃ p, underWay.standing? source = some p := by
    intro source hsource
    simp only [List.mem_cons, List.not_mem_nil, or_false] at hsource
    rcases hsource with rfl | rfl | rfl
    · exact ⟨_, hreachable.standing?_slot hslot⟩
    · exact ⟨_, rfl⟩
    · exact ⟨_, rfl⟩
  obtain ⟨each, -, hsame⟩ := checks_do_not_affect_each_other hrun hstanding (by decide)
  have horder : [spent, .linked, .slot "main"].Perm [.slot "main", .linked, spent] :=
    List.reverse_perm [Source.slot "main", .linked, spent]
  obtain ⟨after, appended, hafter, hreports, halone, -, -, hcalls⟩ :=
    hsame [spent, .linked, .slot "main"] amongOthers horder
      (.other rfl (by decide) nofun (.check spent (.other rfl (by decide) (by decide)
        (.check .linked (.other rfl (by decide) nofun (.other rfl (by decide) nofun
          (.check (.slot "main") .nil)))))))
  exact ⟨after, appended, hafter, hreports, halone, hcalls "two" (by decide)⟩

/-- Two runs without a report. -/
def twoRuns : Session := (Session.fresh emptyWorld).afterAll [
  .newRun "a" (.collecting ⟨[]⟩),
  .newRun "b" (.collecting ⟨[]⟩)]

/-- Another run may ask a closure in between. -/
def spentByOther : List Step := [
  .runCheck "a" valid,
  .runCheck "b" spent,
  .runCheck "a" spent]

theorem check_depends_on_other_run :
    (∀ source ∈ [valid, spent], ∃ p, twoRuns.standing? source = some p) ∧
    ([valid, spent].filterMap Source.counter?).Nodup ∧
    Interleaves "a" [] [valid, spent] spentByOther ∧
    [valid, spent].map twoRuns.alone =
      [some ⟨Report.checkName, "valid", .passed, []⟩,
        some ⟨Report.checkName, "spent", .passed, []⟩] ∧
    ((twoRuns.afterAll spentByOther).runs "a").map Run.reports =
      some [⟨Report.checkName, "valid", .passed, []⟩,
        ⟨Report.checkName, "spent", .failed, [.unavailable]⟩] := by
  refine ⟨?_, by decide, ?_, by decide +kernel, by decide +kernel⟩
  · simp [Session.standing?, valid, spent]
  · exact .check valid (.other rfl (by decide) nofun (.check spent .nil))

end GrammarLoad
