import ClangHost.Document.Node

/-!
Scanning a document from left to right: the text that is left and the number of bytes before it.
A scan gives a value and moves on, or refuses the document as a whole.
-/
namespace ClangHost.Toml

open Document (Span)

structure Cursor where
  rest : List Char
  position : Nat

abbrev Scan (α : Type) := StateT Cursor Option α

namespace Scan

def peek : Scan (Option Char) := do return (← get).rest.head?

def ahead (n : Nat) : Scan (List Char) := do return (← get).rest.take n

def any : Scan Char := do
  match ← get with
  | ⟨c :: rest, position⟩ => set (Cursor.mk rest (position + c.utf8Size)); return c
  | _ => failure

def charOf (p : Char → Bool) : Scan Char := do
  let c ← any
  if p c then return c else failure

def char (c : Char) : Scan Unit := discard (charOf (· == c))

def word : List Char → Scan Unit
  | [] => return ()
  | c :: rest => do char c; word rest

def takeWhile (p : Char → Bool) : Scan (List Char) := do
  let ⟨rest, position⟩ ← get
  let (taken, rest) := rest.span p
  set (Cursor.mk rest (taken.foldl (fun n c => n + c.utf8Size) position))
  return taken

def takeWhile1 (p : Char → Bool) : Scan (List Char) := do
  let c ← charOf p
  return c :: (← takeWhile p)

def takeExactly (p : Char → Bool) : Nat → Scan (List Char)
  | 0 => return []
  | n + 1 => do
    let c ← charOf p
    return c :: (← takeExactly p n)

def maybe {α : Type} (x : Scan α) : Scan (Option α) := (some <$> x) <|> pure none

def spanned {α : Type} (x : Scan α) : Scan (α × Span) := do
  let start := (← get).position
  let a ← x
  return (a, ⟨start, (← get).position⟩)

/-- A bound for loops that take at least one character in each turn. -/
def fuel : Scan Nat := do return (← get).rest.length + 1

def run? {α : Type} (x : Scan α) (s : List Char) : Option α := (x ⟨s, 0⟩).map Prod.fst

end Scan
end ClangHost.Toml
