import GrammarLoad.Proofs.Loadings

/-!
What was handed out stays valid. A grammar calls the language function of the library that is mapped
from its file, and loaded libraries stay loaded. So the function goes on to give back the same
language, whatever becomes of the library's file, of the grammar itself and of other libraries.
-/
namespace GrammarLoad

namespace Session

/-- The grammars and languages at hand. -/
def SameHands (s t : Session) : Prop := t.slots = s.slots ∧ t.kept = s.kept

theorem sameHands_useProvider (s : Session) (source : Source)
    (use : Provider → Except ProviderError Handle → Answer × List Event) :
    s.SameHands (s.useProvider source use).after := by
  obtain ⟨made, events, t, -, rfl, hu⟩ := s.useProvider_eq source use
  rw [hu]
  cases made <;> exact ⟨rfl, rfl⟩

theorem sameHands_runCheck (s : Session) (name : String) (run : Run Recorder) (source : Source) :
    s.SameHands (s.runCheck name run source).after := by
  obtain ⟨made, events, t, -, rfl, hr⟩ := s.runCheck_eq name run source
  rw [hr]
  cases made <;> exact ⟨rfl, rfl⟩

/-- A step opens a grammar into a slot, drops what a slot holds, holds on to a grammar's language,
or leaves everything at hand as it is. -/
theorem hands_step (s : Session) (step : Step) :
    (∃ p slot g, step = .openLibrary p slot ∧ (s.world.openLibrary p).1 = .ok g ∧
      (s.step step).after.slots = update s.slots slot (some g) ∧
      (s.step step).after.kept = s.kept) ∨
    (∃ slot, step = .close slot ∧ (s.step step).after.slots = update s.slots slot none ∧
      (s.step step).after.kept = s.kept) ∨
    (∃ slot name g, step = .hold slot name ∧ s.slots slot = some g ∧
      (s.step step).after.slots = s.slots ∧
      (s.step step).after.kept =
        update s.kept name (some (g.language s.world.loaded))) ∨
    s.SameHands (s.step step).after := by
  cases step with
  | openLibrary p slot =>
    simp only [Session.step]
    cases ho : (s.world.openLibrary p).1 with
    | ok g => exact .inl ⟨p, slot, g, rfl, ho, rfl, rfl⟩
    | error e => exact .inr (.inr (.inr ⟨rfl, rfl⟩))
  | close slot => exact .inr (.inl ⟨slot, rfl, rfl, rfl⟩)
  | hold slot name =>
    simp only [Session.step]
    cases hg : s.slots slot with
    | some g => exact .inr (.inr (.inl ⟨slot, name, g, rfl, hg, rfl, rfl⟩))
    | none => exact .inr (.inr (.inr ⟨rfl, rfl⟩))
  | ask source => exact .inr (.inr (.inr (sameHands_useProvider s source _)))
  | check source => exact .inr (.inr (.inr (sameHands_useProvider s source _)))
  | assertLoads source => exact .inr (.inr (.inr (sameHands_useProvider s source _)))
  | runCheck name source =>
    refine .inr (.inr (.inr ?_))
    simp only [Session.step]
    cases s.runs name with
    | some run => exact sameHands_runCheck s name run source
    | none => exact ⟨rfl, rfl⟩
  | recordError name binding e =>
    refine .inr (.inr (.inr ?_))
    simp only [Session.step]
    cases s.runs name <;> exact ⟨rfl, rfl⟩
  | takeReporter name =>
    refine .inr (.inr (.inr ?_))
    simp only [Session.step]
    cases s.runs name <;> exact ⟨rfl, rfl⟩
  | _ => exact .inr (.inr (.inr ⟨rfl, rfl⟩))

/-- A grammar at hand has a language function to call, and a language at hand was returned by one
that can be called still. -/
structure Backed (s : Session) : Prop where
  slots : ∀ slot g, s.slots slot = some g →
    ∃ language, s.world.loaded.returns? g.file = some language
  kept : ∀ name language, s.kept name = some language →
    ∃ file, s.world.loaded.returns? file = some language

theorem Backed.step {s : Session} (h : s.Backed) (hmaps : s.world.loaded.MapsOnce) (step : Step) :
    (s.step step).after.Backed := by
  have hgrow := s.growsTo_step step
  have hslots : ∀ slot g, s.slots slot = some g →
      ∃ language, (s.step step).after.world.loaded.returns? g.file = some language := by
    intro slot g hg
    obtain ⟨language, hcall⟩ := h.slots slot g hg
    exact ⟨language, hgrow.returns? hcall⟩
  have hkept : ∀ name language, s.kept name = some language →
      ∃ file, (s.step step).after.world.loaded.returns? file = some language := by
    intro name language hl
    obtain ⟨file, hfile⟩ := h.kept name language hl
    exact ⟨file, hgrow.returns? hfile⟩
  rcases s.hands_step step with
    ⟨p, slot, g, rfl, ho, hs, hk⟩ | ⟨slot, -, hs, hk⟩ | ⟨slot, name, g, -, hg, hs, hk⟩ | ⟨hs, hk⟩
  · refine ⟨?_, by rwa [hk]⟩
    intro name g' hg'
    rw [hs] at hg'
    by_cases hname : name = slot
    · subst name
      rw [update_self] at hg'
      obtain rfl : g = g' := Option.some.inj hg'
      obtain ⟨language, hcall⟩ := hmaps.returns?_of_openPath ho
      have hloaded : (s.step (.openLibrary p slot)).after.world.loaded =
          (s.world.loaded.openPath s.world.files p).2 :=
        (s.leaves_step (.openLibrary p slot)).2
      exact ⟨language, by rwa [hloaded]⟩
    · rw [update_of_ne hname] at hg'
      exact hslots name g' hg'
  · refine ⟨?_, by rwa [hk]⟩
    intro name g hg
    rw [hs] at hg
    by_cases hname : name = slot
    · subst name
      rw [update_self] at hg
      cases hg
    · rw [update_of_ne hname] at hg
      exact hslots name g hg
  · refine ⟨by rwa [hs], ?_⟩
    intro n language hl
    rw [hk] at hl
    by_cases hname : n = name
    · subst n
      rw [update_self] at hl
      obtain rfl : g.language s.world.loaded = language := Option.some.inj hl
      obtain ⟨now, hcall⟩ := h.slots slot g hg
      rw [LibraryGrammar.language_of_returns? hcall]
      exact ⟨g.file, hgrow.returns? hcall⟩
    · rw [update_of_ne hname] at hl
      exact hkept n language hl
  · exact ⟨by rwa [hs], by rwa [hk]⟩

theorem Reachable.backed {s : Session} (h : s.Reachable) : s.Backed := by
  refine h.induction ?_ ?_
  · intro w
    exact ⟨nofun, nofun⟩
  · intro s step hs hbacked
    exact hbacked.step hs.mapsOnce step

/-- No step does this when its turn comes. -/
def Never (P : Session → Step → Prop) (s : Session) : List Step → Prop
  | [] => True
  | step :: rest => ¬ P s step ∧ (s.step step).after.Never P rest

/-- A step drops what a slot holds: it closes the slot, or opens another library into it. -/
def Drops (slot : String) (s : Session) : Step → Prop
  | .close name => name = slot
  | .openLibrary p name => name = slot ∧ ∃ g, (s.world.openLibrary p).1 = .ok g
  | _ => False

/-- A step holds on to a language under a name. -/
def Holds (name : String) (s : Session) : Step → Prop
  | .hold slot n => n = name ∧ ∃ g, s.slots slot = some g
  | _ => False

theorem slots_step_of_not_drops {s : Session} {slot : String} {step : Step}
    (h : ¬ s.Drops slot step) : (s.step step).after.slots slot = s.slots slot := by
  rcases s.hands_step step with
    ⟨p, name, g, rfl, ho, hs, -⟩ | ⟨name, rfl, hs, -⟩ | ⟨-, -, -, -, -, hs, -⟩ | ⟨hs, -⟩
  · have hne : slot ≠ name := fun heq => h ⟨heq.symm, g, ho⟩
    rw [hs, update_of_ne hne]
  · have hne : slot ≠ name := fun heq => h heq.symm
    rw [hs, update_of_ne hne]
  · rw [hs]
  · rw [hs]

theorem kept_step_of_not_holds {s : Session} {name : String} {step : Step}
    (h : ¬ s.Holds name step) : (s.step step).after.kept name = s.kept name := by
  rcases s.hands_step step with
    ⟨-, -, -, -, -, -, hk⟩ | ⟨-, -, -, hk⟩ | ⟨slot, n, g, rfl, hg, -, hk⟩ | ⟨-, hk⟩
  · rw [hk]
  · rw [hk]
  · have hne : name ≠ n := fun heq => h ⟨heq.symm, g, hg⟩
    rw [hk, update_of_ne hne]
  · rw [hk]

theorem slots_afterAll_of_never {s : Session} {slot : String} {steps : List Step}
    (h : s.Never (Drops slot) steps) : (s.afterAll steps).slots slot = s.slots slot := by
  induction steps generalizing s with
  | nil => rfl
  | cons step rest ih => exact (ih h.2).trans (slots_step_of_not_drops h.1)

theorem kept_afterAll_of_never {s : Session} {name : String} {steps : List Step}
    (h : s.Never (Holds name) steps) : (s.afterAll steps).kept name = s.kept name := by
  induction steps generalizing s with
  | nil => rfl
  | cons step rest ih => exact (ih h.2).trans (kept_step_of_not_holds h.1)

theorem answer_ask_slot {s : Session} {slot : String} {g : LibraryGrammar}
    {language : Option Language} (h : s.slots slot = some g)
    (hcall : s.world.loaded.returns? g.file = some language) :
    (s.step (.ask (.slot slot))).answer = .handle (.language language) := by
  simp [Session.step, useProvider, supply, h, answerOf, Provider.answer, Bound.ask,
    LibraryGrammar.language_of_returns? hcall]

theorem answer_check_slot {s : Session} {slot : String} {g : LibraryGrammar}
    {language : Option Language} (h : s.slots slot = some g)
    (hcall : s.world.loaded.returns? g.file = some language) :
    (s.step (.check (.slot slot))).answer =
      .report (Report.ofHandle g.binding (.language language)) := by
  simp [Session.step, useProvider, supply, h, answerOf, Provider.answer, Bound.ask,
    LibraryGrammar.language_of_returns? hcall, GrammarLoad.check, Except.map, reportAnswer,
    Provider.binding, Bound.binding]

theorem answer_held {s : Session} {name : String} {language : Option Language}
    (h : s.kept name = some language) :
    (s.step (.held name)).answer = .handle (.language language) := by
  simp [Session.step, h, quiet]

end Session

/-- Whatever steps follow, loaded libraries only grow in number, and a place goes on to name the
library it named. The function that a grammar at hand calls returns the same language, even if the
grammar is dropped, and so does one that returned a language that is held. As long as a grammar is
not dropped, it hands out this language and its check gives the same report. -/
theorem handedOut_stays_valid {s : Session} (hs : s.Reachable) :
    (∀ steps, s.world.loaded.GrowsTo (s.afterAll steps).world.loaded ∧
      ∀ k lib, s.world.loaded.at? k = some lib →
        (s.afterAll steps).world.loaded.at? k = some lib) ∧
    (∀ slot g, s.slots slot = some g → ∃ language, ∀ steps,
      (s.afterAll steps).world.loaded.returns? g.file = some language ∧
      (s.Never (Session.Drops slot) steps →
        ((s.afterAll steps).step (.ask (.slot slot))).answer = .handle (.language language) ∧
        ((s.afterAll steps).step (.check (.slot slot))).answer =
          .report (.ofHandle g.binding (.language language)))) ∧
    ∀ name language, s.kept name = some language → ∃ file, ∀ steps,
      (s.afterAll steps).world.loaded.returns? file = some language ∧
      (s.Never (Session.Holds name) steps →
        ((s.afterAll steps).step (.held name)).answer = .handle (.language language)) := by
  refine ⟨?_, ?_, ?_⟩
  · intro steps
    have hgrow := s.growsTo_afterAll steps
    exact ⟨hgrow, fun k lib hk => hgrow.at? hk⟩
  · intro slot g hg
    obtain ⟨language, hcall⟩ := hs.backed.slots slot g hg
    refine ⟨language, fun steps => ?_⟩
    have hlast := (s.growsTo_afterAll steps).returns? hcall
    refine ⟨hlast, fun hnever => ?_⟩
    have hlater : (s.afterAll steps).slots slot = some g :=
      (Session.slots_afterAll_of_never hnever).trans hg
    exact ⟨Session.answer_ask_slot hlater hlast, Session.answer_check_slot hlater hlast⟩
  · intro name language hl
    obtain ⟨file, hfile⟩ := hs.backed.kept name language hl
    refine ⟨file, fun steps => ⟨(s.growsTo_afterAll steps).returns? hfile, ?_⟩⟩
    intro hnever
    exact Session.answer_held ((Session.kept_afterAll_of_never hnever).trans hl)

/-- A library is opened, and its language is held. -/
def heldOn : Session := (Session.fresh emptyWorld).afterAll [
  .changeFiles (.write (.ofText "/r/x.so") (.library (.language 14))),
  .openLibrary (.ofText "/r/x.so") "main",
  .hold "main" "kept"]

/-- The library is replaced by one of another version and opened again, and it is removed before an
attempt to open it into the same slot. -/
def gone : List Step := [
  .changeFiles (.write (.ofText "/r/x.so") (.library (.language 99))),
  .openLibrary (.ofText "/r/./x.so") "other",
  .changeFiles (.remove (.ofText "/r/x.so")),
  .openLibrary (.ofText "/r/x.so") "main"]

theorem handedOut_stays_valid_gone :
    (heldOn.afterAll gone).world.loaded.returns? 3 = some (some ⟨14⟩) ∧
      ((heldOn.afterAll gone).step (.check (.slot "main"))).answer =
        .report ⟨Report.checkName, "library:/r/x.so", .passed, []⟩ ∧
      ((heldOn.afterAll gone).step (.held "kept")).answer = .handle (.language (some ⟨14⟩)) := by
  have hvalid := handedOut_stays_valid (s := heldOn) ⟨emptyWorld, _, rfl⟩
  have hfails : ((heldOn.afterAll (gone.take 3)).world.openLibrary
      (.ofText "/r/x.so")).1.toOption = none := by decide +kernel
  obtain ⟨language, hslot⟩ := hvalid.2.1 "main" ⟨"library:/r/x.so", 3⟩ (by decide +kernel)
  obtain ⟨_, hkept⟩ := hvalid.2.2 "kept" (some ⟨14⟩) (by decide +kernel)
  obtain ⟨hreturns, hanswers⟩ := hslot gone
  have hnow : heldOn.world.loaded.returns? 3 = some (some ⟨14⟩) := by decide +kernel
  obtain rfl : some ⟨14⟩ = language := Option.some.inj (hnow.symm.trans (hslot []).1)
  refine ⟨hreturns, ?_, (hkept gone).2 ?_⟩
  · refine (hanswers ⟨?_, ?_, ?_, ?_, trivial⟩).2
    · exact id
    · simp [Session.Drops]
    · exact id
    · rintro ⟨-, g, hg⟩
      have hsome := congrArg Except.toOption hg
      exact nomatch hfails.symm.trans hsome
  · simp [gone, Session.Never, Session.Holds]

end GrammarLoad
