import GrammarLoad.ProviderError

/-!
The check that a grammar can be loaded. A provider is asked once; the check fails on an empty handle
and on one that a parser refuses. A provider's own error is passed on, so that a caller decides
whether it ends the matter or counts as one more failed check.
-/
namespace GrammarLoad

inductive State
  | running
  | passed
  | failed
  deriving DecidableEq, Repr

def State.name : State → String
  | running => "Running"
  | passed => "Passed"
  | failed => "Failed"

/-- States are told apart by their names. -/
theorem State.name_inj {a b : State} : a.name = b.name ↔ a = b := by
  cases a <;> cases b <;> simp [State.name]

inductive FailureKind
  | grammarUnavailable
  | incompatibleLanguage
  | providerFailed
  deriving DecidableEq, Repr

def FailureKind.name : FailureKind → String
  | grammarUnavailable => "GrammarUnavailable"
  | incompatibleLanguage => "IncompatibleLanguage"
  | providerFailed => "ProviderFailed"

structure Failure where
  kind : FailureKind
  message : String
  detail : Option String
  deriving DecidableEq, Repr

namespace Failure

/-- The message that every failure of the check carries. -/
def fixedMessage : String := "Error loading Gloss grammar"

def text (f : Failure) : String :=
  match f.detail with
  | some detail => f.message ++ ": " ++ detail
  | none => f.message

def unavailable : Failure := ⟨.grammarUnavailable, fixedMessage, none⟩

def incompatible (i : Incompatible) : Failure :=
  ⟨.incompatibleLanguage, fixedMessage, some i.message⟩

def provider (e : ProviderError) : Failure := ⟨.providerFailed, fixedMessage, some e.message⟩

end Failure

/-- The outcome of one check against one provider. -/
structure Report where
  name : String
  binding : String
  state : State
  failures : List Failure
  deriving DecidableEq, Repr

namespace Report

def checkName : String := "CanLoadGrammar"

def start (binding : String) : Report := ⟨checkName, binding, .running, []⟩

def fail (r : Report) (f : Failure) : Report :=
  { r with failures := r.failures ++ [f], state := .failed }

/-- A check that is still running has not failed. -/
def finish (r : Report) : Report :=
  if r.state = .running then { r with state := .passed } else r

def passed (r : Report) : Bool := r.state == .passed

/-- The check of a handle. An empty handle is not shown to a parser. -/
def ofHandle (binding : String) (h : Handle) : Report :=
  let r := start binding
  if h.isEmpty then (r.fail .unavailable).finish
  else match h.attach with
    | .error i => (r.fail (.incompatible i)).finish
    | .ok () => r.finish

/-- A provider's error, counted as a failed check. -/
def ofError (binding : String) (e : ProviderError) : Report :=
  ((start binding).fail (.provider e)).finish

theorem ofHandle_of_usable {binding : String} {h : Handle} (hu : h.Usable) :
    ofHandle binding h = ⟨checkName, binding, .passed, []⟩ := by
  simp [ofHandle, hu.1, hu.2, start, finish]

theorem ofHandle_of_isEmpty {binding : String} {h : Handle} (he : h.isEmpty = true) :
    ofHandle binding h = ⟨checkName, binding, .failed, [.unavailable]⟩ := by
  simp [ofHandle, he, start, fail, finish]

theorem ofHandle_of_refused {binding : String} {h : Handle} {i : Incompatible}
    (he : h.isEmpty = false) (ha : h.attach = .error i) :
    ofHandle binding h = ⟨checkName, binding, .failed, [.incompatible i]⟩ := by
  simp [ofHandle, he, ha, start, fail, finish]

/-- The three ways in which the check of a handle ends. -/
theorem ofHandle_cases (binding : String) (h : Handle) :
    h.Usable ∧ ofHandle binding h = ⟨checkName, binding, .passed, []⟩ ∨
    h.isEmpty = true ∧ ofHandle binding h = ⟨checkName, binding, .failed, [.unavailable]⟩ ∨
    ∃ i, h.isEmpty = false ∧ h.attach = .error i ∧
      ofHandle binding h = ⟨checkName, binding, .failed, [.incompatible i]⟩ := by
  cases he : h.isEmpty with
  | true => exact .inr (.inl ⟨rfl, ofHandle_of_isEmpty he⟩)
  | false =>
    cases ha : h.attach with
    | error i => exact .inr (.inr ⟨i, rfl, rfl, ofHandle_of_refused he ha⟩)
    | ok => exact .inl ⟨⟨he, ha⟩, ofHandle_of_usable ⟨he, ha⟩⟩

theorem ofError_eq (binding : String) (e : ProviderError) :
    ofError binding e = ⟨checkName, binding, .failed, [.provider e]⟩ := by
  simp [ofError, start, fail, finish]

end Report

/-- The check of what a provider answered. -/
def check (binding : String) (answer : Except ProviderError Handle) :
    Except ProviderError Report :=
  answer.map (Report.ofHandle binding)

/-- The check as an assertion: nothing if it passes, else the words it fails with. -/
def assertLoads (binding : String) (answer : Except ProviderError Handle) : Option String :=
  match check binding answer with
  | .ok r => r.failures.head?.map fun f => f.text ++ " (binding: " ++ r.binding ++ ")"
  | .error e => some (Failure.fixedMessage ++ ": " ++ e.message)

end GrammarLoad
