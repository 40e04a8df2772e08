import GrammarLoad.Text.Reading

/-!
Paths are byte strings. They are kept and shown as they were written; what they name is found by
their segments, and two of them are compared component by component.
-/
namespace GrammarLoad

structure Path where
  bytes : List UInt8
  deriving DecidableEq, Repr

/-- One entry of a directory. -/
abbrev Name := List UInt8

namespace Path

def slash : UInt8 := 47

/-- The name a directory has for itself. -/
def here : Name := [46]

/-- The name a directory has for the one that holds it. -/
def up : Name := [46, 46]

def ofText (s : String) : Path := ⟨utf8 s⟩

def display (p : Path) : String := GrammarLoad.display p.bytes

def isEmpty (p : Path) : Bool := p.bytes.isEmpty

def isAbsolute (p : Path) : Bool := p.bytes.head? == some slash

def endsInSlash (p : Path) : Bool := p.bytes.getLast? == some slash

def hasSlash (p : Path) : Bool := p.bytes.contains slash

/-- An absolute path replaces what it is joined to. A slash is put in between unless the left side
is empty or ends in one. -/
def join (p q : Path) : Path :=
  if q.isAbsolute then q
  else if p.isEmpty || p.endsInSlash then ⟨p.bytes ++ q.bytes⟩
  else ⟨p.bytes ++ slash :: q.bytes⟩

/-- The names between slashes, without the empty ones. -/
def names (p : Path) : List Name := (p.bytes.splitOn slash).filter (!·.isEmpty)

/-- The names to walk along. A trailing slash asks for a directory, as a final `.` does. -/
def segments (p : Path) : List Name := p.names ++ if p.endsInSlash then [here] else []

/-- What comparison looks at. -/
structure Components where
  rooted : Bool
  /-- a relative path that starts in `.` -/
  fromHere : Bool
  names : List Name
  deriving DecidableEq, Repr

def components (p : Path) : Components where
  rooted := p.isAbsolute
  fromHere := !p.isAbsolute && p.names.head? == some here
  names := p.names.filter (· ≠ here)

/-- Repeated and trailing slashes and inner `.` names make no difference. -/
def Same (p q : Path) : Prop := p.components = q.components

instance (p q : Path) : Decidable (Same p q) := inferInstanceAs (Decidable (_ = _))

theorem same_refl (p : Path) : Same p p := rfl

theorem same_symm {p q : Path} (h : Same p q) : Same q p := Eq.symm h

theorem same_trans {p q r : Path} (h : Same p q) (h' : Same q r) : Same p r := Eq.trans h h'

theorem eq_ofText_of_text? {p : Path} {s : String} (h : text? p.bytes = some s) : p = ofText s :=
  congrArg Path.mk (text?_eq_some_iff.mp h)

theorem display_of_text? {p : Path} {s : String} (h : text? p.bytes = some s) : p.display = s := by
  rw [eq_ofText_of_text? h]
  exact display_utf8 s

/-- A path that is text is shown in full. -/
theorem ofText_display {p : Path} (h : (text? p.bytes).isSome) : ofText p.display = p := by
  obtain ⟨s, hs⟩ := Option.isSome_iff_exists.mp h
  rw [display_of_text? hs, ← eq_ofText_of_text? hs]

theorem ofText_hasSlash_join {p : Path} {s : String} (hs : (ofText s).isAbsolute = false)
    (h : p.isEmpty = false) : (p.join (ofText s)).hasSlash = true := by
  unfold join
  rw [if_neg (by simp [hs])]
  split
  · next hp =>
    have hend : p.endsInSlash = true := by simpa [h] using hp
    have hmem : slash ∈ p.bytes := List.mem_of_getLast? (by simpa [endsInSlash] using hend)
    simp [hasSlash, hmem]
  · simp [hasSlash]

end Path

end GrammarLoad
