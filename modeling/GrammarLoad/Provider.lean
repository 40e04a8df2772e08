import GrammarLoad.Library
import GrammarLoad.Text.Quoted

/-!
Sources of the language: the grammar linked into the program, a library opened from a file, and a
caller's closure standing in for either. A closure is asked by number: every question to it is
counted, and its n-th answer is fixed from the start.
-/
namespace GrammarLoad

/-- The grammar linked into the program, with what its language function returns. -/
inductive LinkedGrammar
  | absent
  | present (language : Option Language)
  deriving DecidableEq, Repr

namespace LinkedGrammar

def isAvailable : LinkedGrammar → Bool
  | absent => false
  | present _ => true

def ask : LinkedGrammar → Except ProviderError Handle
  | absent => .error .notLinked
  | present language => .ok (.language language)

/-- What is linked stays linked; only what its function returns can change. -/
def returning (language : Option Language) : LinkedGrammar → LinkedGrammar
  | absent => absent
  | present _ => present language

theorem isAvailable_eq_false_iff {linked : LinkedGrammar} :
    linked.isAvailable = false ↔ linked = absent := by
  cases linked <;> simp [isAvailable]

end LinkedGrammar

/-- Which grammar to bind. -/
inductive Binding
  | linked
  | library (path : Path)
  deriving DecidableEq, Repr

namespace Binding

def name : Binding → String
  | linked => "linked"
  | library p => LibraryGrammar.bindingName p

/-- A binding written so that no two are written alike. -/
def described : Binding → String
  | linked => "Linked"
  | library p => "Library(" ++ Quoted.quote p.bytes ++ ")"

def Same : Binding → Binding → Prop
  | linked, linked => True
  | library p, library q => p.Same q
  | _, _ => False

instance (b c : Binding) : Decidable (Same b c) := by
  cases b <;> cases c <;> unfold Same <;> infer_instance

end Binding

/-- A provider chosen by a binding. -/
inductive Bound
  | linked
  | library (grammar : LibraryGrammar)
  deriving DecidableEq, Repr

namespace Bound

def binding : Bound → String
  | linked => "linked"
  | library g => g.binding

/-- A grammar of a library calls the function of the library that is loaded. -/
def ask (linked : LinkedGrammar) (loaded : Loaded) : Bound → Except ProviderError Handle
  | .linked => linked.ask
  | library g => .ok (.language (g.language loaded))

end Bound

/-- A closure with its answers in order; the last one is given from then on. Closures that name the
same counter are counted together. -/
structure Closure where
  binding : String
  counter : String
  first : Except ProviderError Handle
  later : List (Except ProviderError Handle)

/-- The answer to question number `n`. -/
def Closure.answer (c : Closure) (n : Nat) : Except ProviderError Handle :=
  (c.first :: c.later).get ⟨min n c.later.length, by simp only [List.length_cons]; omega⟩

inductive Provider
  | bound (b : Bound)
  | closure (c : Closure)
  /-- a provider reached through a reference -/
  | through (p : Provider)

/-- How often each counter was used. -/
abbrev Calls := String → Nat

def Calls.none : Calls := fun _ => 0

def Calls.count (calls : Calls) (counter : String) : Calls :=
  fun k => if k = counter then calls k + 1 else calls k

namespace Provider

def binding : Provider → String
  | bound b => b.binding
  | closure c => c.binding
  | through p => p.binding

/-- What a provider answers to one question. -/
def answer (linked : LinkedGrammar) (loaded : Loaded) (calls : Calls) :
    Provider → Except ProviderError Handle
  | bound b => b.ask linked loaded
  | closure c => c.answer (calls c.counter)
  | through p => p.answer linked loaded calls

/-- The counters after one question. -/
def callsAfter (calls : Calls) : Provider → Calls
  | bound _ => calls
  | closure c => calls.count c.counter
  | through p => p.callsAfter calls

end Provider

end GrammarLoad
