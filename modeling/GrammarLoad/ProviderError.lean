import GrammarLoad.Handle
import GrammarLoad.Path

/-!
Why a provider hands out no language at all. These are not failures of a check: a null or refused
language is found by the check, while here there is nothing to check.
-/
namespace GrammarLoad

inductive LoaderCall
  | dlopen
  | dlsym
  | dlclose
  deriving DecidableEq, Repr

def LoaderCall.name : LoaderCall → String
  | dlopen => "dlopen"
  | dlsym => "dlsym"
  | dlclose => "dlclose"

/-- What a dynamic loader complains of. -/
inductive LoaderError
  /-- a call failed without a word -/
  | silent (call : LoaderCall)
  | incompatibleSize
  | cannotOpen (path : Path)
  | tooShort (path : Path)
  | notALibrary (path : Path)
  /-- the library is named by the path it was first loaded under -/
  | undefinedSymbol (loadedAs : Path) (symbol : String)
  /-- a loader's own words -/
  | described (text : String)
  deriving DecidableEq, Repr

def LoaderError.message : LoaderError → String
  | silent call => call.name ++ " failed, but system did not report the error"
  | incompatibleSize => "requested type cannot possibly work"
  | cannotOpen p => p.display ++ ": cannot open shared object file: No such file or directory"
  | tooShort p => p.display ++ ": file too short"
  | notALibrary p => p.display ++ ": invalid ELF header"
  | undefinedSymbol p symbol => p.display ++ ": undefined symbol: " ++ symbol
  | described text => text

inductive ProviderError
  | notLinked
  | notFound (searched : List Path)
  | load (path : Path) (source : LoaderError)
  | missingSymbol (path : Path) (symbol : String) (source : LoaderError)
  deriving DecidableEq, Repr

namespace ProviderError

/-- Which of the four causes it is, whatever paths and words come with it. -/
inductive Kind
  | notLinked
  | notFound
  | load
  | missingSymbol
  deriving DecidableEq, Repr

def kind : ProviderError → Kind
  | notLinked => .notLinked
  | notFound _ => .notFound
  | load _ _ => .load
  | missingSymbol _ _ _ => .missingSymbol

def displayPaths (paths : List Path) : String :=
  if paths.isEmpty then "<none>" else ", ".intercalate (paths.map Path.display)

def message : ProviderError → String
  | notLinked => "gloss grammar is not linked into this build (src/parser.c was not compiled)"
  | notFound searched =>
    "gloss grammar library not found (searched: " ++ displayPaths searched ++ ")"
  | load path source => "failed to load grammar library " ++ path.display ++ ": " ++ source.message
  | missingSymbol path symbol source =>
    "grammar library " ++ path.display ++ " is missing symbol `" ++ symbol ++ "`: " ++
      source.message

/-- What all messages of one kind start with. -/
def Kind.lead : Kind → List Char
  | notLinked => "gloss grammar i".toList
  | notFound => "gloss grammar l".toList
  | load => "failed to load ".toList
  | missingSymbol => "grammar library".toList

theorem Kind.lead_injective {a b : Kind} (h : a.lead = b.lead) : a = b := by
  unfold Kind.lead at h
  cases a <;> cases b <;> simp at h ⊢

theorem take_message (e : ProviderError) : e.message.toList.take 15 = e.kind.lead := by
  unfold message kind Kind.lead
  cases e <;> simp

/-- No paths and no words of a loader make messages of two kinds alike. -/
theorem kind_eq_of_message_eq {e e' : ProviderError} (h : e.message = e'.message) :
    e.kind = e'.kind := by
  apply Kind.lead_injective
  rw [← take_message e, ← take_message e', h]

end ProviderError

theorem Incompatible.take_message (i : Incompatible) :
    i.message.toList.take 15 = "incompatible la".toList := by
  unfold message
  simp

/-- A refused language is never told like an error of a provider. -/
theorem Incompatible.message_ne_providerError (i : Incompatible) (e : ProviderError) :
    i.message ≠ e.message := by
  intro h
  have hlead := e.take_message
  rw [← h, i.take_message] at hlead
  unfold ProviderError.Kind.lead at hlead
  cases hk : e.kind <;> rw [hk] at hlead <;> simp at hlead

end GrammarLoad
