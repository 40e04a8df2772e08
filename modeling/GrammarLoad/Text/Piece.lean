/-!
UTF-8 read byte by byte. Every byte ends up in a piece: a character, or the longest start of a
character that the next byte does not continue. So bytes that are no text still have one reading.
-/
namespace GrammarLoad

inductive Piece
  | char (c : Char)
  | invalid (bytes : List UInt8)
  deriving DecidableEq, Repr

/-- The bytes of a text. -/
def utf8 (s : String) : List UInt8 := s.toList.flatMap String.utf8EncodeChar

namespace Piece

/-- The first bytes of a character, and what the next byte has to be. -/
structure Pending where
  seen : List UInt8
  value : Nat
  low : Nat
  high : Nat
  /-- how many bytes are due after the next one -/
  later : Nat
  deriving DecidableEq, Repr

/-- A byte where a character may start. The bounds leave out overlong forms, surrogates and
everything above the last code point. -/
def start (b : UInt8) : List Piece × Option Pending :=
  let n := b.toNat
  if n < 0x80 then ([.char (Char.ofNat n)], none)
  else if n < 0xC2 then ([.invalid [b]], none)
  else if n < 0xE0 then ([], some ⟨[b], n - 0xC0, 0x80, 0xBF, 0⟩)
  else if n < 0xF0 then
    ([], some ⟨[b], n - 0xE0, if n = 0xE0 then 0xA0 else 0x80,
      if n = 0xED then 0x9F else 0xBF, 1⟩)
  else if n < 0xF5 then
    ([], some ⟨[b], n - 0xF0, if n = 0xF0 then 0x90 else 0x80,
      if n = 0xF4 then 0x8F else 0xBF, 2⟩)
  else ([.invalid [b]], none)

/-- A byte that does not continue the pending character ends it and is read afresh. -/
def step (pending : Option Pending) (b : UInt8) : List Piece × Option Pending :=
  match pending with
  | none => start b
  | some p =>
    if p.low ≤ b.toNat ∧ b.toNat ≤ p.high then
      let value := p.value * 64 + (b.toNat - 0x80)
      match p.later with
      | 0 => ([.char (Char.ofNat value)], none)
      | later + 1 => ([], some ⟨p.seen ++ [b], value, 0x80, 0xBF, later⟩)
    else (.invalid p.seen :: (start b).1, (start b).2)

def finish : Option Pending → List Piece
  | none => []
  | some p => [.invalid p.seen]

def readFrom (pending : Option Pending) : List UInt8 → List Piece
  | [] => finish pending
  | b :: rest =>
    let next := step pending b
    next.1 ++ readFrom next.2 rest

def read (bytes : List UInt8) : List Piece := readFrom none bytes

/-- The bytes a piece was read from. -/
def bytes : Piece → List UInt8
  | char c => String.utf8EncodeChar c
  | invalid bs => bs

/-- A piece that is no character is shown as one replacement character. -/
def shown : Piece → Char
  | char c => c
  | invalid _ => '\uFFFD'

def char? : Piece → Option Char
  | char c => some c
  | invalid _ => none

theorem readFrom_nil (p : Option Pending) : readFrom p [] = finish p := rfl

theorem readFrom_cons (p : Option Pending) (b : UInt8) (rest : List UInt8) :
    readFrom p (b :: rest) = (step p b).1 ++ readFrom (step p b).2 rest := rfl

end Piece

/-- Bytes as text: characters stay, all else is replaced piece by piece. -/
def display (bytes : List UInt8) : String :=
  String.ofList ((Piece.read bytes).map Piece.shown)

/-- The text that bytes are, if they are text. -/
def text? (bytes : List UInt8) : Option String :=
  ((Piece.read bytes).mapM Piece.char?).map String.ofList

end GrammarLoad
