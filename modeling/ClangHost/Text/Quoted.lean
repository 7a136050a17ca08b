import ClangHost.Text.Hex
import ClangHost.Text.Unseen
import ClangHost.Text.Utf8

/-!
Quoted texts as diagnostics show them. Three kinds of value are quoted, each by one record of
conventions: texts, byte strings that most often hold text, and file paths. In all of them a
character without a glyph of its own is spelled out by its number.
-/
namespace ClangHost.Text

/-- How one kind of value is quoted: whether a single quote is escaped, how an ASCII character
without a short escape is written, and how a byte outside any character is written. -/
structure Quoting where
  escapesSingle : Bool
  control : Char → List Char
  stray : UInt8 → List Char

def codePointEscape (c : Char) : List Char :=
  ['\\', 'u', '\x7b'] ++ hexDigits c.toNat ++ ['\x7d']

def byteEscape (b : UInt8) : List Char := ['\\', 'x'] ++ hexByte b

/-- Texts: every unseen character is written by its number. -/
def Quoting.text : Quoting :=
  { escapesSingle := false, control := codePointEscape, stray := byteEscape }

/-- Byte strings: an ASCII control character is written as a byte. -/
def Quoting.byteString : Quoting :=
  { escapesSingle := true, control := fun c => byteEscape c.toNat.toUInt8, stray := byteEscape }

/-- File paths: as a text, with stray bytes in upper case. -/
def Quoting.path : Quoting :=
  { escapesSingle := false
    control := codePointEscape
    stray := fun b => ['\\', 'x'] ++ (hexByte b).map Char.toUpper }

namespace Quoting

def char (q : Quoting) (c : Char) : List Char :=
  if c = '\x00' then ['\\', '0']
  else if c = '\t' then ['\\', 't']
  else if c = '\n' then ['\\', 'n']
  else if c = '\r' then ['\\', 'r']
  else if c = '"' ∨ c = '\\' ∨ (c = '\'' ∧ q.escapesSingle) then ['\\', c]
  else if !isUnseen c then [c]
  else if c.toNat < 0x80 then q.control c
  else codePointEscape c

def piece (q : Quoting) : Utf8.Piece → List Char
  | .char c => q.char c
  | .malformed bytes => bytes.flatMap q.stray

def bytes (q : Quoting) (bs : Bytes) : String :=
  String.ofList ('"' :: (Utf8.pieces bs).flatMap q.piece ++ ['"'])

end Quoting

def quoted (s : String) : String :=
  String.ofList ('"' :: s.toList.flatMap Quoting.text.char ++ ['"'])

end ClangHost.Text
