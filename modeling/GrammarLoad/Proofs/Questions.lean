import GrammarLoad.Proofs.Independence

/-!
Questions to closures. A direct question, a check, an assertion and a check within a run put one
question each to the closure behind the source, whatever it answers, and no other step puts any. So
a counter holds the number of questions to the closures that share it, this number picks the answer
to the next one, and the references on the way to a closure do not matter.
-/
namespace GrammarLoad

/-- The outcome of a closure's question number `n`, which is the last outcome if there are fewer. -/
def Closure.outcome (c : Closure) (n : Nat) : Except ProviderError Handle :=
  (c.first :: c.later)[n]?.getD ((c.first :: c.later).getLast (List.cons_ne_nil _ _))

theorem Closure.answer_eq_outcome (c : Closure) (n : Nat) : c.answer n = c.outcome n := by
  unfold answer outcome
  by_cases hn : n ≤ c.later.length
  · have hmin : min n c.later.length = n := by omega
    have hlt : n < (c.first :: c.later).length := by
      rw [List.length_cons]
      omega
    simp [hmin, List.getElem?_eq_getElem hlt]
  · have hmin : min n c.later.length = c.later.length := by omega
    have hle : (c.first :: c.later).length ≤ n := by
      rw [List.length_cons]
      omega
    simp [hmin, List.getElem?_eq_none hle, List.getLast_eq_getElem]

/-! What is behind references. -/

def Source.direct : Source → Source
  | .through source => source.direct
  | source => source

/-- The closure that a source comes to. -/
def Source.closure? : Source → Option Closure
  | .closure c => some c
  | .through source => source.closure?
  | _ => none

theorem Source.counter?_eq_map (source : Source) :
    source.counter? = source.closure?.map Closure.counter := by
  induction source with
  | through source ih => exact ih
  | _ => rfl

def Provider.direct : Provider → Provider
  | .through p => p.direct
  | p => p

def Supply.direct : Supply → Supply
  | .provider p => .provider p.direct
  | made => made

theorem Provider.binding_direct (p : Provider) : p.direct.binding = p.binding := by
  induction p with
  | through p ih => exact ih
  | _ => rfl

theorem Provider.answer_direct (linked : LinkedGrammar) (loaded : Loaded) (calls : Calls)
    (p : Provider) : p.direct.answer linked loaded calls = p.answer linked loaded calls := by
  induction p with
  | through p ih => exact ih
  | _ => rfl

theorem Provider.callsAfter_direct (calls : Calls) (p : Provider) :
    p.direct.callsAfter calls = p.callsAfter calls := by
  induction p with
  | through p ih => exact ih
  | _ => rfl

theorem Supply.direct_through (made : Supply) : made.through.direct = made.direct := by
  cases made <;> rfl

namespace Step

/-- The step with its source given without references. -/
def direct : Step → Step
  | .ask source => .ask source.direct
  | .check source => .check source.direct
  | .assertLoads source => .assertLoads source.direct
  | .runCheck name source => .runCheck name source.direct
  | step => step

/-- The step uses a provider. -/
def Asks : Step → Prop
  | .ask _ | .check _ | .assertLoads _ | .runCheck _ _ => True
  | _ => False

end Step

/-- How a provider is asked. -/
inductive Way
  | plain
  | check
  | assertion
  | runCheck
  deriving DecidableEq, Repr

/-- What comes of asking in a way, if it has this outcome. -/
def Way.result (binding : String) (outcome : Except ProviderError Handle) : Way → Answer
  | plain =>
    match outcome with
    | .ok h => .handle h
    | .error e => .error e
  | check => Session.reportAnswer (GrammarLoad.check binding outcome)
  | assertion => (GrammarLoad.assertLoads binding outcome).elim .done .panic
  | runCheck => .report (Run.reportOf binding outcome)

/-- A question to a closure. -/
structure Question where
  way : Way
  closure : Closure

/-- What is returned to the one who asks. A run is summed up besides. -/
def Answer.returned : Answer → Answer
  | .ran _ r => Session.reportAnswer r
  | answer => answer

namespace Scene

/-- The question that a step puts to a closure. A check within a run that is not there puts none. -/
def question? (c : Scene) : Step → Option Question
  | .ask source => source.closure?.map (Question.mk .plain)
  | .check source => source.closure?.map (Question.mk .check)
  | .assertLoads source => source.closure?.map (Question.mk .assertion)
  | .runCheck name source =>
    if c.hasRun name then source.closure?.map (Question.mk .runCheck) else none
  | _ => none

/-- The question of a step, if it goes to a closure of this counter. -/
def questionTo? (c : Scene) (counter : String) (step : Step) : Option Question :=
  (c.question? step).filter fun q => q.closure.counter = counter

/-- The questions of several steps to the closures of a counter, in order. -/
def questions (c : Scene) (counter : String) : List Step → List Question
  | [] => []
  | step :: rest => (c.questionTo? counter step).toList ++ (c.step step).questions counter rest

end Scene

namespace Session

/-- What the questions to the closures of a counter return, in order. -/
def returned (s : Session) (counter : String) : List Step → List Answer
  | [] => []
  | step :: rest =>
    ((s.scene.questionTo? counter step).toList.map fun _ => (s.step step).answer.returned) ++
      (s.step step).after.returned counter rest

variable {s : Session} {source : Source}

theorem supply_direct (s : Session) (source : Source) :
    s.supply source.direct = ((s.supply source).1.direct, (s.supply source).2) := by
  induction source with
  | linked => rfl
  | binding b =>
    simp only [Source.direct, supply]
    rcases s.world.provide b with ⟨bound | e, events, w⟩ <;> rfl
  | slot name =>
    simp only [Source.direct, supply]
    cases s.slots name <;> rfl
  | closure c => rfl
  | through source ih =>
    have hmade := (s.supply source).1.direct_through
    simp only [Source.direct, supply, ih, hmade]

theorem answerOf_direct (s : Session) (p : Provider) : s.answerOf p.direct = s.answerOf p :=
  p.answer_direct _ _ _

theorem asked_direct (s : Session) (p : Provider) : s.asked p.direct = s.asked p := by
  unfold asked
  rw [p.callsAfter_direct]

theorem useProvider_direct {use : Provider → Except ProviderError Handle → Answer × List Event}
    (huse : ∀ p answer, use p.direct answer = use p answer) (s : Session) (source : Source) :
    s.useProvider source.direct use = s.useProvider source use := by
  unfold useProvider
  rw [s.supply_direct source]
  rcases s.supply source with ⟨made, events, t⟩
  cases made with
  | provider p => simp only [Supply.direct, huse, answerOf_direct, asked_direct]
  | failed e => rfl
  | unknown => rfl

theorem runCheck_direct (s : Session) (name : String) (run : Run Recorder) (source : Source) :
    s.runCheck name run source.direct = s.runCheck name run source := by
  unfold runCheck
  rw [s.supply_direct source]
  rcases s.supply source with ⟨made, events, t⟩
  cases made with
  | provider p => simp only [Supply.direct, p.binding_direct, answerOf_direct, asked_direct]
  | failed e => rfl
  | unknown => rfl

/-- A reference on the way to a provider changes nothing of a step. -/
theorem step_direct (s : Session) (step : Step) : s.step step.direct = s.step step := by
  cases step with
  | ask source =>
    simp only [Step.direct, Session.step]
    exact useProvider_direct (fun _ _ => rfl) s source
  | check source =>
    simp only [Step.direct, Session.step]
    exact useProvider_direct (fun p _ => by rw [p.binding_direct]) s source
  | assertLoads source =>
    simp only [Step.direct, Session.step]
    exact useProvider_direct (fun p _ => by rw [p.binding_direct]) s source
  | runCheck name source => simp only [Step.direct, Session.step, runCheck_direct]
  | _ => rfl

theorem outcomes_direct (s : Session) (steps : List Step) :
    s.outcomes (steps.map Step.direct) = s.outcomes steps := by
  induction steps generalizing s with
  | nil => rfl
  | cons step rest ih => simp only [List.map_cons, outcomes, step_direct, ih]

/-- A closure can always be asked. -/
theorem supply_of_counter? {k : String} (h : source.counter? = some k) :
    ∃ p, (s.supply source).1 = .provider p := by
  induction source with
  | closure c => exact ⟨.closure c, rfl⟩
  | through source ih =>
    obtain ⟨p, hp⟩ := ih h
    refine ⟨.through p, ?_⟩
    simp only [supply, hp, Supply.through]
  | _ => cases h

/-- Where nothing can be asked, there is nothing to count. -/
theorem calls_eq_of_supply (h : ∀ p, (s.supply source).1 ≠ .provider p) (k : String) :
    s.calls k = s.calls k + source.counter?.toList.count k := by
  have hnone : source.counter? = none := by
    cases hc : source.counter? with
    | none => rfl
    | some counter =>
      obtain ⟨p, hp⟩ := supply_of_counter? hc
      exact absurd hp (h p)
  rw [hnone]
  rfl

theorem calls_asked_of_supply {p : Provider} (h : (s.supply source).1 = .provider p) (t : Session)
    (k : String) : (t.asked p).calls k = t.calls k + source.counter?.toList.count k := by
  rw [← counter?_of_supply h]
  exact p.callsAfter_apply t.calls k

/-- To use a source is one question if it comes to a closure, and else none. -/
theorem calls_useProvider (s : Session) (source : Source)
    (use : Provider → Except ProviderError Handle → Answer × List Event) (k : String) :
    (s.useProvider source use).after.calls k = s.calls k + source.counter?.toList.count k := by
  obtain ⟨made, events, t, hs, rfl, hu⟩ := s.useProvider_eq source use
  rw [hu]
  cases made with
  | provider p => exact calls_asked_of_supply (by rw [hs]) _ k
  | failed e => exact calls_eq_of_supply (s := s) (by simp [hs]) k
  | unknown => exact calls_eq_of_supply (s := s) (by simp [hs]) k

theorem calls_runCheck (s : Session) (name : String) (run : Run Recorder) (source : Source)
    (k : String) :
    (s.runCheck name run source).after.calls k = s.calls k + source.counter?.toList.count k := by
  obtain ⟨made, events, t, hs, rfl, hr⟩ := s.runCheck_eq name run source
  rw [hr]
  cases made with
  | provider p => exact calls_asked_of_supply (by rw [hs]) _ k
  | failed e => exact calls_eq_of_supply (s := s) (by simp [hs]) k
  | unknown => exact calls_eq_of_supply (s := s) (by simp [hs]) k

end Session

theorem length_question (way : Way) (source : Source) (k : String) :
    ((source.closure?.map (Question.mk way)).filter
      fun q => q.closure.counter = k).toList.length = source.counter?.toList.count k := by
  rw [source.counter?_eq_map]
  cases source.closure? with
  | none => rfl
  | some c => by_cases hk : c.counter = k <;> simp [Option.filter, hk]

namespace Session

/-- A step that does not use a provider counts nothing. -/
theorem calls_of_not_asks (s : Session) {step : Step} (h : ¬ step.Asks) :
    (s.step step).after.calls = s.calls := by
  cases step with
  | ask source => exact absurd trivial h
  | check source => exact absurd trivial h
  | assertLoads source => exact absurd trivial h
  | runCheck name source => exact absurd trivial h
  | openLibrary p slot =>
    simp only [Session.step]
    cases (s.world.openLibrary p).1 <;> rfl
  | hold slot name =>
    simp only [Session.step]
    cases s.slots slot <;> rfl
  | recordError name binding e =>
    simp only [Session.step]
    cases s.runs name <;> rfl
  | takeReporter name =>
    simp only [Session.step]
    cases s.runs name <;> rfl
  | _ => rfl

/-- A step counts the question that it puts to a closure. -/
theorem calls_step (s : Session) (step : Step) (k : String) :
    (s.step step).after.calls k = s.calls k + (s.scene.questionTo? k step).toList.length := by
  cases step with
  | ask source =>
    rw [Scene.questionTo?, Scene.question?, length_question]
    exact s.calls_useProvider source _ k
  | check source =>
    rw [Scene.questionTo?, Scene.question?, length_question]
    exact s.calls_useProvider source _ k
  | assertLoads source =>
    rw [Scene.questionTo?, Scene.question?, length_question]
    exact s.calls_useProvider source _ k
  | runCheck name source =>
    have hthere : s.scene.hasRun name = (s.runs name).isSome := rfl
    simp only [Session.step, Scene.questionTo?, Scene.question?, hthere]
    cases s.runs name with
    | none => rfl
    | some run =>
      rw [Option.isSome_some, if_pos rfl, length_question]
      exact s.calls_runCheck name run source k
  | _ => exact congrFun (s.calls_of_not_asks id) k

theorem calls_afterAll (s : Session) (steps : List Step) (k : String) :
    (s.afterAll steps).calls k = s.calls k + (s.scene.questions k steps).length := by
  induction steps generalizing s with
  | nil => rfl
  | cons step rest ih =>
    calc
      (s.afterAll (step :: rest)).calls k =
          (s.step step).after.calls k + ((s.step step).after.scene.questions k rest).length := ih _
      _ = s.calls k + ((s.scene.questionTo? k step).toList.length +
          ((s.scene.step step).questions k rest).length) := by
        rw [s.calls_step step k, (s.leaves_step step).1, Nat.add_assoc]
      _ = s.calls k + (s.scene.questions k (step :: rest)).length := by
        rw [Scene.questions, List.length_append]

end Session

theorem Source.direct_of_closure? {source : Source} {c : Closure} (h : source.closure? = some c) :
    source.direct = .closure c := by
  induction source with
  | closure d =>
    obtain rfl := Option.some.inj h
    rfl
  | through source ih => exact ih h
  | _ => cases h

theorem Answer.returned_reportAnswer (checked : Except ProviderError Report) :
    (Session.reportAnswer checked).returned = Session.reportAnswer checked := by
  cases checked <;> rfl

namespace Session

variable {s : Session} {source : Source}

/-- A closure is asked its outcome of the number that its counter stands at. -/
theorem answer_useProvider_of_closure? {c : Closure} (h : source.closure? = some c) (s : Session)
    (use : Provider → Except ProviderError Handle → Answer × List Event) :
    (s.useProvider source.direct use).answer =
      (use (.closure c) (c.outcome (s.calls c.counter))).1 := by
  rw [Source.direct_of_closure? h, ← c.answer_eq_outcome]
  rfl

/-- What a question returns is told from the closure's name and from the outcome of its number. -/
theorem returned_step {step : Step} {q : Question} (h : s.scene.question? step = some q) :
    (s.step step).answer.returned =
      q.way.result q.closure.binding (q.closure.outcome (s.calls q.closure.counter)) := by
  rw [← s.step_direct step]
  cases step with
  | ask source =>
    obtain ⟨c, hc, rfl⟩ := Option.map_eq_some_iff.mp h
    simp only [Step.direct, Session.step, answer_useProvider_of_closure? hc]
    cases c.outcome (s.calls c.counter) <;> rfl
  | check source =>
    obtain ⟨c, hc, rfl⟩ := Option.map_eq_some_iff.mp h
    simp only [Step.direct, Session.step, answer_useProvider_of_closure? hc]
    exact Answer.returned_reportAnswer _
  | assertLoads source =>
    obtain ⟨c, hc, rfl⟩ := Option.map_eq_some_iff.mp h
    simp only [Step.direct, Session.step, answer_useProvider_of_closure? hc, Provider.binding,
      Way.result]
    cases GrammarLoad.assertLoads c.binding (c.outcome (s.calls c.counter)) <;> rfl
  | runCheck name source =>
    have hthere : s.scene.hasRun name = (s.runs name).isSome := rfl
    simp only [Scene.question?, hthere] at h
    cases hr : s.runs name with
    | none =>
      rw [hr] at h
      cases h
    | some run =>
      rw [hr, Option.isSome_some, if_pos rfl] at h
      obtain ⟨c, hc, rfl⟩ := Option.map_eq_some_iff.mp h
      simp only [Step.direct, Source.direct_of_closure? hc, Session.step, hr, runCheck, supply,
        answerOf, Provider.answer, c.answer_eq_outcome, Way.result]
      rfl
  | _ => cases h

/-- The questions to the closures of a counter are answered by number, in the order in which they
are put. -/
theorem returned_eq_mapIdx (s : Session) (steps : List Step) (k : String) :
    s.returned k steps = (s.scene.questions k steps).mapIdx fun i q =>
      q.way.result q.closure.binding (q.closure.outcome (s.calls k + i)) := by
  induction steps generalizing s with
  | nil => rfl
  | cons step rest ih =>
    have hcalls := s.calls_step step k
    have hscene := (s.leaves_step step).1
    rw [returned, Scene.questions, ih, hscene, hcalls]
    cases hq : s.scene.questionTo? k step with
    | none => simp
    | some q =>
      obtain ⟨hput, hk⟩ := Option.filter_eq_some_iff.mp hq
      have hcounter : q.closure.counter = k := of_decide_eq_true hk
      have hfirst := returned_step hput
      rw [hcounter] at hfirst
      simp [hfirst, List.mapIdx_cons, Nat.add_assoc, Nat.add_comm 1]

end Session

/-- Every use of a closure asks it once: by the end of a session, a counter has counted as many
questions as were put to the closures that share it, whatever they came to, and a step that uses no
provider leaves all counters. Each question returned what its way makes of the closure's name and of
the outcome with the question's number. References to the closures play no part in this. -/
theorem every_question_is_counted_once (w : World) (steps : List Step) (counter : String) :
    (((Session.start w).afterAll steps).step (.calls counter)).answer =
      .count ((Session.start w).scene.questions counter steps).length ∧
    (Session.start w).returned counter steps =
      ((Session.start w).scene.questions counter steps).mapIdx (fun n q =>
        q.way.result q.closure.binding (q.closure.outcome n)) ∧
    (∀ step : Step, ¬ step.Asks →
      (((Session.start w).afterAll steps).step step).after.calls =
        ((Session.start w).afterAll steps).calls) ∧
    (Session.start w).outcomes (steps.map Step.direct) = (Session.start w).outcomes steps := by
  have hnone : ∀ k, (Session.start w).calls k = 0 := fun _ => rfl
  refine ⟨?_, ?_, ?_, Session.outcomes_direct _ steps⟩
  · change Answer.count (((Session.start w).afterAll steps).calls counter) = _
    rw [Session.calls_afterAll, hnone, Nat.zero_add]
  · rw [Session.returned_eq_mapIdx]
    simp only [hnone, Nat.zero_add]
  · intro step h
    exact Session.calls_of_not_asks _ h

/-- A closure that fails after its first answer. -/
def brief : Source := .closure ⟨"brief", "shared", .ok (.pointer false), [.error .notLinked]⟩

/-- A closure without a grammar, counted together with the other one. -/
def vacant : Source := .closure ⟨"vacant", "shared", .ok (.language none), []⟩

/-- All four ways to ask, a run that is not there, and an error that is only recorded. -/
def sharedCounter : List Step := [
  .newRun "a" (.collecting ⟨[]⟩),
  .check (.through brief),
  .assertLoads vacant,
  .recordError "a" "early" .notLinked,
  .runCheck "a" brief,
  .runCheck "b" vacant,
  .ask (.through (.through vacant))]

theorem every_question_is_counted_once_shared :
    (((Session.start emptyWorld).afterAll sharedCounter).step (.calls "shared")).answer =
      .count 4 ∧
    (Session.start emptyWorld).returned "shared" sharedCounter =
      [.report ⟨Report.checkName, "brief", .passed, []⟩,
        .panic "Error loading Gloss grammar (binding: vacant)",
        .report ⟨Report.checkName, "brief", .failed, [.provider .notLinked]⟩,
        .handle (.language none)] ∧
    (((Session.start emptyWorld).afterAll sharedCounter).step (.runState "a")).after.calls =
      ((Session.start emptyWorld).afterAll sharedCounter).calls := by
  obtain ⟨hcount, hreturned, hquiet, -⟩ :=
    every_question_is_counted_once emptyWorld sharedCounter "shared"
  exact ⟨hcount, hreturned, hquiet (.runState "a") id⟩

end GrammarLoad
