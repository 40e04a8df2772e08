import GrammarLoad.Text.Reading
import GrammarLoad.World

/-!
The event that tells which grammar is bound. It shows a library's path in quotes, and a quoted path
can be read back whatever bytes it holds: a backslash of the path is written twice, so a path that
looks like an escape is never taken for one, and every escape shows where it ends. So no two
bindings are told by the same text, even where their names agree.
-/
namespace GrammarLoad

namespace Quoted

open Printable

/-- What a reader of escaped text is in the middle of. -/
inductive Awaiting
  | anything
  /-- what the backslash stands for -/
  | escape
  | brace
  | codePoint (value : Nat)
  | highDigit
  | lowDigit (high : Nat)
  deriving DecidableEq, Repr

/-- The value of a hexadecimal digit of either case. -/
def digitValue (c : Char) : Nat :=
  if c.isDigit then c.toNat - 48 else if c.isUpper then c.toNat - 55 else c.toNat - 87

/-- What a character behind a backslash stands for. -/
def escaped (c : Char) : Char :=
  if c = '0' then '\x00'
  else if c = 't' then '\t'
  else if c = 'r' then '\r'
  else if c = 'n' then '\n'
  else c

/-- The bytes that a character completes, and what is awaited next. -/
def Awaiting.step : Awaiting → Char → List UInt8 × Awaiting
  | anything, c => if c = '\\' then ([], escape) else (String.utf8EncodeChar c, anything)
  | escape, c =>
    if c = 'u' then ([], brace)
    else if c = 'x' then ([], highDigit)
    else (String.utf8EncodeChar (escaped c), anything)
  | brace, _ => ([], codePoint 0)
  | codePoint value, c =>
    if c = '\x7d' then (String.utf8EncodeChar (Char.ofNat value), anything)
    else ([], codePoint (16 * value + digitValue c))
  | highDigit, c => ([], lowDigit (digitValue c))
  | lowDigit high, c => ([UInt8.ofNat (16 * high + digitValue c)], anything)

def unescapeFrom (awaiting : Awaiting) : List Char → List UInt8
  | [] => []
  | c :: rest =>
    let next := awaiting.step c
    next.1 ++ unescapeFrom next.2 rest

/-- The bytes that an escaped text was written from. -/
def unescape (text : List Char) : List UInt8 := unescapeFrom .anything text

theorem digitValue_digitChar : ∀ d < 16, digitValue (Nat.digitChar d) = d := by decide

theorem digitValue_upperDigit : ∀ d < 16, digitValue (upperDigit d) = d := by decide

theorem unescapeFrom_cons (awaiting : Awaiting) (c : Char) (rest : List Char) :
    unescapeFrom awaiting (c :: rest) =
      (awaiting.step c).1 ++ unescapeFrom (awaiting.step c).2 rest := rfl

theorem unescapeFrom_digitChar {d : Nat} (hd : d < 16) (value : Nat) (rest : List Char) :
    unescapeFrom (.codePoint value) (Nat.digitChar d :: rest) =
      unescapeFrom (.codePoint (16 * value + d)) rest := by
  have hbrace : Nat.digitChar d ≠ '\x7d' := Nat.digitChar_ne '\x7d' rfl
  rw [unescapeFrom_cons, Awaiting.step, if_neg hbrace, digitValue_digitChar d hd]
  rfl

/-- The digits of a code point are read as that code point. -/
theorem unescapeFrom_toDigits (n : Nat) (rest : List Char) :
    unescapeFrom (.codePoint 0) (Nat.toDigits 16 n ++ rest) =
      unescapeFrom (.codePoint n) rest := by
  -- All digits but the last are those of `n / 16`, so what follows them varies.
  induction n using Nat.strongRecOn generalizing rest with
  | ind n ih =>
    by_cases hn : n < 16
    · rw [Nat.toDigits_of_lt_base hn, List.singleton_append, unescapeFrom_digitChar hn]
      simp
    · have hlast : n % 16 < 16 := Nat.mod_lt n (by omega)
      rw [Nat.toDigits_of_base_le (by omega) (by omega), List.append_assoc,
        ih (n / 16) (by omega), List.singleton_append, unescapeFrom_digitChar hlast,
        Nat.div_add_mod]

theorem unescape_escapeByte (b : UInt8) (rest : List Char) :
    unescape (escapeByte b ++ rest) = b :: unescape rest := by
  have hb : b.toNat < 256 := b.toNat_lt
  have hhigh : digitValue (upperDigit (b.toNat / 16)) = b.toNat / 16 :=
    digitValue_upperDigit _ (by omega)
  have hlow : digitValue (upperDigit (b.toNat % 16)) = b.toNat % 16 :=
    digitValue_upperDigit _ (by omega)
  have hvalue : UInt8.ofNat (16 * (b.toNat / 16) + b.toNat % 16) = b := by
    rw [Nat.div_add_mod, UInt8.ofNat_toNat]
  change [UInt8.ofNat (16 * digitValue (upperDigit (b.toNat / 16)) +
    digitValue (upperDigit (b.toNat % 16)))] ++ unescape rest = b :: unescape rest
  rw [hhigh, hlow, hvalue]
  rfl

theorem unescape_escapeChar (c : Char) (rest : List Char) :
    unescape (escapeChar c ++ rest) = String.utf8EncodeChar c ++ unescape rest := by
  unfold escapeChar
  by_cases hnul : c = '\x00'
  · subst hnul
    rfl
  by_cases htab : c = '\t'
  · subst htab
    rfl
  by_cases hreturn : c = '\r'
  · subst hreturn
    rfl
  by_cases hfeed : c = '\n'
  · subst hfeed
    rfl
  by_cases hquote : c = '\\' ∨ c = '"'
  · rcases hquote with rfl | rfl
    · rfl
    · rfl
  rw [if_neg hnul, if_neg htab, if_neg hreturn, if_neg hfeed, if_neg hquote]
  by_cases hshown : isPrintable c = true
  · have hback : c ≠ '\\' := fun h => hquote (.inl h)
    rw [if_pos hshown, unescape, List.singleton_append, unescapeFrom_cons, Awaiting.step,
      if_neg hback]
    rfl
  · rw [if_neg hshown]
    change unescapeFrom (.codePoint 0) ((Nat.toDigits 16 c.toNat ++ ['\x7d']) ++ rest) = _
    rw [List.append_assoc, unescapeFrom_toDigits, List.singleton_append, unescapeFrom_cons,
      Awaiting.step, if_pos rfl, Char.ofNat_toNat]
    rfl

theorem unescape_escapePiece (p : Piece) (rest : List Char) :
    unescape (escapePiece p ++ rest) = p.bytes ++ unescape rest := by
  cases p with
  | char c => exact unescape_escapeChar c rest
  | invalid bytes =>
    change unescape (bytes.flatMap escapeByte ++ rest) = bytes ++ unescape rest
    induction bytes with
    | nil => rfl
    | cons b bytes ih =>
      rw [List.flatMap_cons, List.append_assoc, unescape_escapeByte, ih]
      rfl

/-- Escaped bytes are read back as they were. -/
theorem unescape_escape (bytes : List UInt8) : unescape (escape bytes) = bytes := by
  have hpieces : ∀ ps : List Piece,
      unescape (ps.flatMap escapePiece) = ps.flatMap Piece.bytes := by
    intro ps
    induction ps with
    | nil => rfl
    | cons p ps ih => rw [List.flatMap_cons, unescape_escapePiece, ih, List.flatMap_cons]
  rw [escape, hpieces, Piece.flatMap_bytes_read]

theorem quote_injective {bs cs : List UInt8} (h : quote bs = quote cs) : bs = cs := by
  have htext : escape bs = escape cs := by
    have hlist := String.ofList_injective h
    exact List.append_cancel_right (List.cons.inj hlist).2
  rw [← unescape_escape bs, htext, unescape_escape]

end Quoted

/-- No two bindings are described alike. -/
theorem Binding.described_injective {b c : Binding} (h : b.described = c.described) : b = c := by
  have hlinked : ∀ p, (library p).described ≠ linked.described := by
    intro p heq
    have hlist := congrArg String.toList heq
    simp [described] at hlist
  cases b with
  | linked =>
    cases c with
    | linked => rfl
    | library q => exact absurd h.symm (hlinked q)
  | library p =>
    cases c with
    | linked => exact absurd h (hlinked p)
    | library q =>
      have hquoted : Quoted.quote p.bytes = Quoted.quote q.bytes :=
        (String.append_right_inj _).mp ((String.append_left_inj _).mp h)
      exact congrArg (fun bytes => library ⟨bytes⟩) (Quoted.quote_injective hquoted)

namespace LogEntry

def field? (e : LogEntry) (name : String) : Option String := e.fields.lookup name

/-- The binding that an entry tells of, if it tells that one is bound. -/
def bound? (e : LogEntry) : Option String :=
  if e.level = .debug ∧ e.field? "message" = some "binding gloss grammar" then e.field? "binding"
  else none

end LogEntry

/-- The bindings that events tell of, as they are written down. -/
def boundIn (events : List Event) : List String := events.filterMap (·.entry.bound?)

theorem boundIn_binding (b : Binding) (rest : List Event) :
    boundIn (.binding b :: rest) = b.described :: boundIn rest := rfl

theorem boundIn_loaded (p : Path) (rest : List Event) :
    boundIn (.loaded p :: rest) = boundIn rest := rfl

namespace World

/-- Opening a library tells of no binding. -/
theorem boundIn_openEvents (p : Path) (result : Except ProviderError LibraryGrammar) :
    boundIn (openEvents p result) = [] := by
  cases result with
  | error e => rfl
  | ok g => exact boundIn_loaded p []

/-- Making a provider tells of its binding once, whether the library can be opened or not. -/
theorem boundIn_provide (w : World) (b : Binding) :
    boundIn (w.provide b).2.1 = [b.described] := by
  cases b with
  | linked => exact boundIn_binding .linked []
  | library p =>
    change boundIn (.binding (.library p) :: openEvents p (w.openLibrary p).1) = _
    rw [boundIn_binding, boundIn_openEvents]

/-- Making a provider tells of one binding, in a text that no other binding has, in whatever worlds
the two are bound. -/
theorem provide_tells_binding (w w' : World) (b c : Binding) :
    (∃ text, boundIn (w.provide b).2.1 = [text]) ∧
    (boundIn (w.provide b).2.1 = boundIn (w'.provide c).2.1 ↔ b = c) := by
  rw [boundIn_provide, boundIn_provide]
  refine ⟨⟨_, rfl⟩, ?_, ?_⟩
  · intro h
    exact Binding.described_injective (List.singleton_inj.mp h)
  · rintro rfl
    rfl

-- A name shows no invalid byte, and the text of an escape is no escape.
example : (Binding.library ⟨[0xFF]⟩).name = (Binding.library ⟨[0xFE]⟩).name ∧
    (Binding.library ⟨[0xFF]⟩).described = "Library(\"\\xFF\")" ∧
    (Binding.library (.ofText "\\xFF")).described = "Library(\"\\\\xFF\")" := by
  decide +kernel

end World

end GrammarLoad
