/-!
Handles to a language, and whether a parser takes them. A parser takes the languages whose version
lies in its range; a handle without a language has nothing that could be refused.
-/
namespace GrammarLoad

/-- A compiled language, known by the version of its tables. -/
structure Language where
  version : Nat
  deriving DecidableEq, Repr

namespace Language

def name : String := "gloss"

/-- The language function that a compiled grammar exports. -/
def symbol : String := "tree_sitter_gloss"

def minVersion : Nat := 13
def maxVersion : Nat := 14

def Supported (l : Language) : Prop := minVersion ≤ l.version ∧ l.version ≤ maxVersion

instance (l : Language) : Decidable l.Supported := inferInstanceAs (Decidable (_ ∧ _))

end Language

/-- A version outside the range that a parser takes. -/
structure Incompatible where
  version : Nat
  min : Nat
  max : Nat
  deriving DecidableEq, Repr

def Incompatible.message (i : Incompatible) : String :=
  "incompatible language ABI version " ++ toString i.version ++
    " (supported " ++ toString i.min ++ "..=" ++ toString i.max ++ ")"

/-- What a parser says to a language. -/
def Language.attach (l : Language) : Except Incompatible Unit :=
  if l.Supported then .ok () else .error ⟨l.version, Language.minVersion, Language.maxVersion⟩

theorem Language.attach_eq_ok_iff {l : Language} : l.attach = .ok () ↔ l.Supported := by
  unfold Language.attach
  split <;> simp_all

inductive Handle
  | language (l : Option Language)
  /-- an untyped pointer, of which only nullness can be told -/
  | pointer (isNull : Bool)
  /-- a caller's own kind of handle, with its two answers -/
  | custom (isEmpty : Bool) (attach : Except Incompatible Unit)

namespace Handle

def isEmpty : Handle → Bool
  | language l => l.isNone
  | pointer isNull => isNull
  | custom isEmpty _ => isEmpty

def attach : Handle → Except Incompatible Unit
  | language none => .ok ()
  | language (some l) => l.attach
  | pointer _ => .ok ()
  | custom _ attach => attach

/-- A handle that a parser can work with. -/
def Usable (h : Handle) : Prop := h.isEmpty = false ∧ h.attach = .ok ()

theorem usable_language {l : Option Language} :
    (language l).Usable ↔ ∃ k, l = some k ∧ k.Supported := by
  cases l with
  | none => simp [Usable, isEmpty]
  | some k => simp [Usable, isEmpty, attach, Language.attach_eq_ok_iff]

theorem usable_pointer {isNull : Bool} : (pointer isNull).Usable ↔ isNull = false := by
  simp [Usable, isEmpty, attach]

end Handle

end GrammarLoad
