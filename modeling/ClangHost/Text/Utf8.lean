/-!
UTF-8 as byte lists. Writing is character by character; reading is a machine that takes one byte at
a time and says which stretches form a character and which do not. A malformed stretch is a maximal
one: it ends where the next byte could not continue any character. Lossy reading puts one U+FFFD for
each such stretch, strict reading refuses the text. A byte below 0x80 stands for itself
(`pieces_cons_of_lt`).
-/
namespace ClangHost

abbrev Bytes := List UInt8

namespace Utf8

def encodeChar (c : Char) : Bytes :=
  let n := c.toNat
  if n < 0x80 then [n.toUInt8]
  else if n < 0x800 then [(0xC0 + n / 0x40).toUInt8, (0x80 + n % 0x40).toUInt8]
  else if n < 0x10000 then
    [(0xE0 + n / 0x1000).toUInt8, (0x80 + n / 0x40 % 0x40).toUInt8, (0x80 + n % 0x40).toUInt8]
  else
    [(0xF0 + n / 0x40000).toUInt8, (0x80 + n / 0x1000 % 0x40).toUInt8,
      (0x80 + n / 0x40 % 0x40).toUInt8, (0x80 + n % 0x40).toUInt8]

def encode (s : List Char) : Bytes := s.flatMap encodeChar

inductive Piece where
  | char (c : Char)
  | malformed (bytes : Bytes)
  deriving DecidableEq, Repr

/-- A character begun: the value so far, the continuation bytes still owed, the bounds of the
next one, and the bytes taken so far, last first. -/
structure Begun where
  value : Nat
  owed : Nat
  low : UInt8
  high : UInt8
  taken : Bytes

inductive Lead where
  | char (c : Char)
  | begins (b : Begun)
  | malformed

/-- The first byte of a character fixes its length and the bounds of its second byte, which rule
out overlong forms, surrogates and values past U+10FFFF. -/
def lead (b : UInt8) : Lead :=
  let start (bits owed : Nat) (low high : UInt8) : Lead :=
    .begins { value := b.toNat - bits, owed, low, high, taken := [b] }
  if b < 0x80 then .char (Char.ofNat b.toNat)
  else if b < 0xC2 then .malformed
  else if b < 0xE0 then start 0xC0 1 0x80 0xBF
  else if b = 0xE0 then start 0xE0 2 0xA0 0xBF
  else if b = 0xED then start 0xE0 2 0x80 0x9F
  else if b < 0xF0 then start 0xE0 2 0x80 0xBF
  else if b = 0xF0 then start 0xF0 3 0x90 0xBF
  else if b < 0xF4 then start 0xF0 3 0x80 0xBF
  else if b = 0xF4 then start 0xF0 3 0x80 0x8F
  else .malformed

def Lead.begun : Lead → Option Begun
  | .begins p => some p
  | _ => none

def Lead.pieces (b : UInt8) : Lead → List Piece
  | .char c => [.char c]
  | .begins _ => []
  | .malformed => [.malformed [b]]

def step : Option Begun → UInt8 → Option Begun × List Piece
  | none, b => ((lead b).begun, (lead b).pieces b)
  | some p, b =>
    if p.low ≤ b ∧ b ≤ p.high then
      let value := p.value * 0x40 + (b.toNat - 0x80)
      if p.owed = 1 then (none, [.char (Char.ofNat value)])
      else (some { value, owed := p.owed - 1, low := 0x80, high := 0xBF, taken := b :: p.taken },
        [])
    else ((lead b).begun, .malformed p.taken.reverse :: (lead b).pieces b)

def piecesFrom : Option Begun → Bytes → List Piece
  | none, [] => []
  | some p, [] => [.malformed p.taken.reverse]
  | state, b :: rest => (step state b).2 ++ piecesFrom (step state b).1 rest

def pieces (bs : Bytes) : List Piece := piecesFrom none bs

def replacement : Char := Char.ofNat 0xFFFD

def Piece.lossy : Piece → Char
  | .char c => c
  | .malformed _ => replacement

def Piece.char? : Piece → Option Char
  | .char c => some c
  | .malformed _ => none

def decodeLossy (bs : Bytes) : List Char := (pieces bs).map Piece.lossy

def decode? (bs : Bytes) : Option (List Char) := (pieces bs).mapM Piece.char?

theorem encodeChar_of_lt {c : Char} (h : c.toNat < 0x80) : encodeChar c = [c.toNat.toUInt8] := by
  simp [encodeChar, h]

theorem pieces_cons_of_lt {b : UInt8} (bs : Bytes) (h : b < 0x80) :
    pieces (b :: bs) = .char (Char.ofNat b.toNat) :: pieces bs := by
  simp [pieces, piecesFrom, step, lead, h, Lead.begun, Lead.pieces]

end Utf8
end ClangHost
