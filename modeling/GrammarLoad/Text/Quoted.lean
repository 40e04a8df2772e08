import GrammarLoad.Text.Piece
import GrammarLoad.Text.Printable

/-!
Bytes between quotes, written so that every byte can be read back: the quote and the backslash get
a backslash, characters that cannot be shown are written by code point, and bytes that form no
character by their two hexadecimal digits.
-/
namespace GrammarLoad.Quoted

open Printable

def escapeChar (c : Char) : List Char :=
  if c = '\x00' then ['\\', '0']
  else if c = '\t' then ['\\', 't']
  else if c = '\r' then ['\\', 'r']
  else if c = '\n' then ['\\', 'n']
  else if c = '\\' ∨ c = '"' then ['\\', c]
  else if isPrintable c then [c]
  else '\\' :: 'u' :: '\x7b' :: (Nat.toDigits 16 c.toNat ++ ['\x7d'])

/-- Hexadecimal digits in upper case. -/
def upperDigit (n : Nat) : Char := (Nat.digitChar n).toUpper

def escapeByte (b : UInt8) : List Char :=
  ['\\', 'x', upperDigit (b.toNat / 16), upperDigit (b.toNat % 16)]

def escapePiece : Piece → List Char
  | .char c => escapeChar c
  | .invalid bytes => bytes.flatMap escapeByte

def escape (bytes : List UInt8) : List Char := (Piece.read bytes).flatMap escapePiece

/-- The quoted form of the bytes. -/
def quote (bytes : List UInt8) : String := String.ofList ('"' :: (escape bytes ++ ['"']))

end GrammarLoad.Quoted
