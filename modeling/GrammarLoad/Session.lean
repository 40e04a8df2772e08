import GrammarLoad.BuildPlan
import GrammarLoad.World

/-!
A session of steps that share one world: libraries are opened into slots, languages are held on to,
closures are asked and counted, and runs of checks go on side by side. Each step gives an answer
and the events it told.
-/
namespace GrammarLoad

/-- Where a step takes its provider from. -/
inductive Source
  | linked
  | binding (b : Binding)
  | slot (name : String)
  | closure (c : Closure)
  | through (s : Source)

inductive Step
  | findLibrary (dirs : List Path)
  | searchPaths
  | chooseBinding
  | provide (b : Binding) (other : Option Binding)
  | openLibrary (p : Path) (slot : String)
  | close (slot : String)
  | ask (source : Source)
  | hold (slot name : String)
  | held (name : String)
  | linkedLanguage
  | setLinked (language : Option Language)
  | check (source : Source)
  | assertLoads (source : Source)
  | calls (counter : String)
  | newRun (run : String) (recorder : Recorder)
  | runCheck (run : String) (source : Source)
  | recordError (run binding : String) (e : ProviderError)
  | runState (run : String)
  | takeReporter (run : String)
  | configuredRun (run : String) (recorder : Recorder)
  | setEnvironment (changes : List (String × Option (List UInt8)))
  | changeFiles (c : FileTree.Change)
  | buildPlan (target host : Option (List UInt8))
  | handOver (recorder : Recorder) (reports : List Report)

/-- What a run looks like from outside. -/
structure Summary where
  passed : Bool
  failureCount : Nat
  reports : Nat
  deriving DecidableEq, Repr

def Run.summary {σ : Type} (run : Run σ) : Summary :=
  ⟨run.passed, run.failureCount, run.reports.length⟩

inductive Answer
  | done
  | error (e : ProviderError)
  | panic (text : String)
  | paths (ps : List Path)
  | found (p : Path)
  | binding (b : Binding)
  | provided (b : Binding) (provider : Except ProviderError String) (equal : Option Bool)
  | opened (binding : String)
  | dropped (wasFilled : Bool)
  | handle (h : Handle)
  | version (n : Nat)
  | report (r : Report)
  | count (n : Nat)
  | run (s : Summary)
  | ran (s : Summary) (r : Except ProviderError Report)
  | runState (run : Run Recorder)
  | recorder (r : Recorder)
  | lines (ls : List String)
  /-- the step names something that is not there -/
  | unknown

structure Session where
  world : World
  calls : Calls
  slots : String → Option LibraryGrammar
  kept : String → Option (Option Language)
  runs : String → Option (Run Recorder)

/-- What a source comes to. -/
inductive Supply
  | provider (p : Provider)
  | failed (e : ProviderError)
  | unknown

/-- The same supply, its provider reached through a reference. -/
def Supply.through : Supply → Supply
  | provider p => .provider (.through p)
  | failed e => .failed e
  | unknown => .unknown

/-- The answer to a step, the events it told, and the session after it. -/
structure Outcome where
  answer : Answer
  events : List Event
  after : Session

namespace Session

def start (world : World) : Session :=
  ⟨world, Calls.none, fun _ => none, fun _ => none, fun _ => none⟩

/-- A table of named things with one entry changed. -/
def update {α : Type} (table : String → Option α) (name : String) (value : Option α) :
    String → Option α :=
  fun k => if k = name then value else table k

theorem update_self {α : Type} (table : String → Option α) (name : String) (value : Option α) :
    update table name value name = value := by simp [update]

theorem update_of_ne {α : Type} {table : String → Option α} {name k : String} {value : Option α}
    (h : k ≠ name) : update table name value k = table k := by simp [update, h]

def quiet (s : Session) (answer : Answer) : Outcome := ⟨answer, [], s⟩

/-- Get a provider; only a binding may open a library for it. -/
def supply (s : Session) : Source → Supply × List Event × Session
  | .linked => (.provider (.bound .linked), [], s)
  | .binding b =>
    match s.world.provide b with
    | (.ok bound, events, world) => (.provider (.bound bound), events, { s with world })
    | (.error e, events, world) => (.failed e, events, { s with world })
  | .slot name =>
    match s.slots name with
    | some g => (.provider (.bound (.library g)), [], s)
    | none => (.unknown, [], s)
  | .closure c => (.provider (.closure c), [], s)
  | .through source =>
    let made := s.supply source
    (made.1.through, made.2)

/-- What a provider answers in this session. -/
def answerOf (s : Session) (p : Provider) : Except ProviderError Handle :=
  p.answer s.world.linked s.world.loaded s.calls

/-- The session after a provider was asked. -/
def asked (s : Session) (p : Provider) : Session := { s with calls := p.callsAfter s.calls }

def reportAnswer : Except ProviderError Report → Answer
  | .ok r => .report r
  | .error e => .error e

/-- Ask a provider and put what it answers into words. -/
def useProvider (s : Session) (source : Source)
    (use : Provider → Except ProviderError Handle → Answer × List Event) : Outcome :=
  match s.supply source with
  | (.provider p, events, after) =>
    let used := use p (after.answerOf p)
    ⟨used.1, events ++ used.2, after.asked p⟩
  | (.failed e, events, after) => ⟨.error e, events, after⟩
  | (.unknown, events, after) => ⟨.unknown, events, after⟩

def setRun (s : Session) (name : String) (run : Run Recorder) : Session :=
  { s with runs := update s.runs name (some run) }

/-- Check a provider within a run. If there is no provider, the run stays as it was. -/
def runCheck (s : Session) (name : String) (run : Run Recorder) (source : Source) : Outcome :=
  match s.supply source with
  | (.provider p, events, after) =>
    let answer := after.answerOf p
    let next := run.check p.binding answer
    ⟨.ran next.1.summary (.ok (Run.reportOf p.binding answer)), events ++ next.2,
      (after.asked p).setRun name next.1⟩
  | (.failed e, events, after) => ⟨.ran run.summary (.error e), events, after⟩
  | (.unknown, events, after) => ⟨.unknown, events, after⟩

def step (s : Session) : Step → Outcome
  | .findLibrary dirs =>
    s.quiet <| match Discovery.findLibrary s.world.files dirs with
      | .ok p => .found p
      | .error e => .error e
  | .searchPaths => s.quiet (.paths (s.world.environment.searchPaths s.world.host))
  | .chooseBinding =>
    s.quiet <| match s.world.chooseBinding with
      | .ok b => .binding b
      | .error e => .error e
  | .provide b other =>
    let made := s.world.provide b
    ⟨.provided b (made.1.map Bound.binding) (other.map fun c => decide (b.Same c)),
      made.2.1, { s with world := made.2.2 }⟩
  | .openLibrary p slot =>
    let opened := s.world.openLibrary p
    match opened.1 with
    | .ok g =>
      ⟨.opened g.binding, World.openEvents p opened.1,
        { s with world := opened.2, slots := update s.slots slot (some g) }⟩
    | .error e => ⟨.error e, World.openEvents p opened.1, { s with world := opened.2 }⟩
  | .close slot =>
    ⟨.dropped (s.slots slot).isSome, [], { s with slots := update s.slots slot none }⟩
  | .ask source =>
    s.useProvider source fun _ answer =>
      match answer with
      | .ok h => (.handle h, [])
      | .error e => (.error e, [])
  | .hold slot name =>
    match s.slots slot with
    | some g =>
      ⟨.done, [], { s with kept := update s.kept name (some (g.language s.world.loaded)) }⟩
    | none => s.quiet .unknown
  | .held name =>
    s.quiet <| match s.kept name with
      | some language => .handle (.language language)
      | none => .unknown
  | .linkedLanguage =>
    s.quiet <| match s.world.linked with
      | .present (some l) => .version l.version
      | _ => .unknown
  | .setLinked language =>
    let linked := s.world.linked.returning language
    ⟨.done, [], { s with world := { s.world with linked } }⟩
  | .check source =>
    s.useProvider source fun p answer =>
      let checked := GrammarLoad.check p.binding answer
      (reportAnswer checked, checkEvents checked)
  | .assertLoads source =>
    s.useProvider source fun p answer =>
      (match GrammarLoad.assertLoads p.binding answer with
        | none => .done
        | some text => .panic text,
        checkEvents (GrammarLoad.check p.binding answer))
  | .calls counter => s.quiet (.count (s.calls counter))
  | .newRun name recorder =>
    ⟨.run (Run.start recorder).summary, [], s.setRun name (Run.start recorder)⟩
  | .runCheck name source =>
    match s.runs name with
    | some run => s.runCheck name run source
    | none => s.quiet .unknown
  | .recordError name binding e =>
    match s.runs name with
    | some run =>
      let next := run.recordError binding e
      ⟨.ran next.1.summary (.ok (.ofError binding e)), next.2, s.setRun name next.1⟩
    | none => s.quiet .unknown
  | .runState name =>
    s.quiet <| match s.runs name with
      | some run => .runState run
      | none => .unknown
  | .takeReporter name =>
    match s.runs name with
    | some run => ⟨.recorder run.reporter, [], { s with runs := update s.runs name none }⟩
    | none => s.quiet .unknown
  | .configuredRun name recorder =>
    let next := s.world.configuredRun recorder
    ⟨.runState next.1, next.2.1, { s with world := next.2.2 }.setRun name next.1⟩
  | .setEnvironment changes =>
    let environment := changes.foldl (fun e c => e.set c.1 c.2) s.world.environment
    ⟨.done, [], { s with world := { s.world with environment } }⟩
  | .changeFiles c =>
    ⟨.done, [], { s with world := { s.world with files := s.world.files.apply c } }⟩
  | .buildPlan target host => s.quiet (.lines (BuildPlan.lines s.world.files target host))
  | .handOver recorder reports =>
    let told := GrammarLoad.handOverAll reports recorder
    ⟨.recorder told.1, told.2, s⟩

/-- The outcomes of several steps, in order. -/
def outcomes (s : Session) : List Step → List Outcome
  | [] => []
  | step :: rest =>
    let outcome := s.step step
    outcome :: outcome.after.outcomes rest

/-- The session after several steps. -/
def afterAll (s : Session) (steps : List Step) : Session :=
  steps.foldl (fun t step => (t.step step).after) s

theorem afterAll_append (s : Session) (xs ys : List Step) :
    s.afterAll (xs ++ ys) = (s.afterAll xs).afterAll ys := by
  simp [afterAll, List.foldl_append]

theorem outcomes_append (s : Session) (xs ys : List Step) :
    s.outcomes (xs ++ ys) = s.outcomes xs ++ (s.afterAll xs).outcomes ys := by
  induction xs generalizing s with
  | nil => rfl
  | cons x rest ih => simp [outcomes, afterAll, ih]

end Session

end GrammarLoad
