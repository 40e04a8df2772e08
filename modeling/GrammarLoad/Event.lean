import GrammarLoad.Check
import GrammarLoad.Provider

/-!
What is told to a log while grammars are bound and checked, and how each event is written down.
-/
namespace GrammarLoad

inductive Event
  | binding (b : Binding)
  | loaded (path : Path)
  | finished (report : Report)
  | failure (report : Report) (failure : Failure)
  deriving DecidableEq, Repr

inductive Level
  | debug
  | error
  deriving DecidableEq, Repr

def Level.name : Level → String
  | debug => "DEBUG"
  | error => "ERROR"

/-- An event as it is written down. -/
structure LogEntry where
  level : Level
  target : String
  fields : List (String × String)
  deriving DecidableEq, Repr

def Event.entry : Event → LogEntry
  | binding b => ⟨.debug, "tree_sitter_gloss::config",
      [("message", "binding gloss grammar"), ("binding", b.described)]⟩
  | loaded path => ⟨.debug, "tree_sitter_gloss::provider",
      [("message", "loaded grammar library"), ("path", path.display),
        ("symbol", Language.symbol)]⟩
  | finished r => ⟨.debug, "tree_sitter_gloss::check",
      [("message", Report.checkName ++ " finished"), ("binding", r.binding),
        ("state", r.state.name)]⟩
  | failure r f => ⟨.error, "tree_sitter_gloss::check",
      [("message", f.message), ("check", r.name), ("binding", r.binding), ("kind", f.kind.name),
        ("detail", f.detail.getD "")]⟩

/-- A check tells that it is over, unless the provider's error ended it. -/
def checkEvents : Except ProviderError Report → List Event
  | .ok r => [.finished r]
  | .error _ => []

end GrammarLoad
