import ClangHost.Document.Fault
import ClangHost.Json.Number

/-!
JSON documents read into trees. Reading never fails as a whole: where the text stops being a
JSON document the tree is cut, so that the first fault met from left to right is known. A text
with an unpaired surrogate and a number out of range are well formed, but not readable: they cut
the tree only for a reader that looks at them.
-/
namespace ClangHost.Json

open Document (Node Span Key Fault)

inductive TextUnit where
  | char (c : Char)
  | code (n : Nat)
  deriving DecidableEq, Repr

def letterEscape? : Char → Option Char
  | '"' => some '"'
  | '\\' => some '\\'
  | '/' => some '/'
  | 'b' => some '\x08'
  | 'f' => some '\x0c'
  | 'n' => some '\n'
  | 'r' => some '\r'
  | 't' => some '\t'
  | _ => none

def codeUnit? (a b c d : Char) : Option Nat := do
  let a ← Text.hexValue? a
  let b ← Text.hexValue? b
  let c ← Text.hexValue? c
  let d ← Text.hexValue? d
  some (((a * 16 + b) * 16 + c) * 16 + d)

def textUnits? : List Char → Option (List TextUnit × List Char)
  | [] => none
  | '"' :: rest => some ([], rest)
  | '\\' :: 'u' :: a :: b :: c :: d :: rest =>
    match codeUnit? a b c d with
    | none => none
    | some n => (textUnits? rest).map fun (us, r) => (.code n :: us, r)
  | '\\' :: c :: rest =>
    match letterEscape? c with
    | none => none
    | some c => (textUnits? rest).map fun (us, r) => (.char c :: us, r)
  | c :: rest =>
    if c = '\\' ∨ c.toNat < 0x20 then none
    else (textUnits? rest).map fun (us, r) => (.char c :: us, r)

/-- The characters of the units; none when a surrogate has no partner. -/
def joinUnits? : List TextUnit → Option (List Char)
  | [] => some []
  | .char c :: rest => (joinUnits? rest).map (c :: ·)
  | .code high :: .code low :: rest =>
    if 0xD800 ≤ high ∧ high < 0xDC00 then
      if 0xDC00 ≤ low ∧ low < 0xE000 then
        (joinUnits? rest).map
          (Char.ofNat ((high - 0xD800) * 0x400 + (low - 0xDC00) + 0x10000) :: ·)
      else none
    else if 0xDC00 ≤ high ∧ high < 0xE000 then none
    else (joinUnits? (.code low :: rest)).map (Char.ofNat high :: ·)
  | .code n :: rest =>
    if 0xD800 ≤ n ∧ n < 0xE000 then none else (joinUnits? rest).map (Char.ofNat n :: ·)

def text? (s : List Char) : Option (Option (List Char) × List Char) :=
  (textUnits? s).map fun (us, rest) => (joinUnits? us, rest)

def isBlank (c : Char) : Bool := c == ' ' || c == '\n' || c == '\t' || c == '\r'

def skipBlanks (s : List Char) : List Char := s.dropWhile isBlank

def after? : List Char → List Char → Option (List Char)
  | [], s => some s
  | w :: word, c :: s => if w = c then after? word s else none
  | _ :: _, [] => none

/-- Cuts the tree at a value that is not there. -/
def stop : Node × Option (List Char) := (.unreadable, none)

mutual

/-- Reads one value. The rest of the text is absent when the text is not well formed up to the
end of the value. The fuel bounds the number of calls that are open at a time. -/
def value : Nat → List Char → Node × Option (List Char)
  | 0, _ => stop
  | fuel + 1, s =>
    match skipBlanks s with
    | [] => stop
    | '\x7b' :: s =>
      match skipBlanks s with
      | '\x7d' :: s => (.table [] false, some s)
      | s =>
        let (entries, cut, rest) := entries fuel s
        (.table entries cut, rest)
    | '[' :: s =>
      match skipBlanks s with
      | ']' :: s => (.list [] false, some s)
      | s =>
        let (items, rest) := items fuel s
        (.list items rest.isNone, rest)
    | '"' :: s =>
      match text? s with
      | none => stop
      | some (none, rest) => (.unreadable, some rest)
      | some (some cs, rest) => (.text (String.ofList cs), some rest)
    | c :: s =>
      if c = '-' ∨ c.isDigit then
        match Literal.read? (c :: s) with
        | none => stop
        | some (literal, rest) => (literal.node, some rest)
      else
        match after? ['n', 'u', 'l', 'l'] (c :: s) with
        | some rest => (.null, some rest)
        | none =>
          match after? ['t', 'r', 'u', 'e'] (c :: s) with
          | some rest => (.bool true, some rest)
          | none =>
            match after? ['f', 'a', 'l', 's', 'e'] (c :: s) with
            | some rest => (.bool false, some rest)
            | none => stop

def items : Nat → List Char → List (Option Span × Node) × Option (List Char)
  | 0, _ => ([], none)
  | fuel + 1, s =>
    match value fuel s with
    | (x, none) => ([(none, x)], none)
    | (x, some s) =>
      match skipBlanks s with
      | ',' :: s =>
        let (xs, rest) := items fuel s
        ((none, x) :: xs, rest)
      | ']' :: s => ([(none, x)], some s)
      | _ => ([(none, x)], none)

/-- Reads the entries of a table that has at least one: those before the place where the tree is
cut, whether it is, and the rest of the text. -/
def entries :
    Nat → List Char → List (Key × Option Span × Node) × Bool × Option (List Char)
  | 0, _ => ([], true, none)
  | fuel + 1, s =>
    match skipBlanks s with
    | '"' :: s =>
      match text? s with
      | none => ([], true, none)
      | some (name, s) =>
        let (entry, more, cut, rest) := match skipBlanks s with
          | ':' :: s =>
            match value fuel s with
            | (x, none) => (x, [], true, none)
            | (x, some s) =>
              match skipBlanks s with
              | ',' :: s => (x, entries fuel s)
              | '\x7d' :: s => (x, [], false, some s)
              | _ => (x, [], true, none)
          | _ => (.unreadable, [], true, none)
        match name with
        | none => ([], true, rest)
        | some name => ((⟨String.ofList name, none⟩, none, entry) :: more, cut, rest)
    | _ => ([], true, none)

end

structure Reading where
  root : Node
  complete : Bool

def read (s : List Char) : Reading :=
  let (root, rest) := value (2 * s.length + 2) s
  { root, complete := rest.any fun rest => (skipBlanks rest).isEmpty }

/-- Reads a document as a value of a given shape; what follows it is looked at last. -/
def decode {α : Type} (f : Node → Except Fault α) (s : List Char) :
    Except Fault α := do
  let reading := read s
  let x ← f reading.root
  if reading.complete then .ok x else .error .malformed

end ClangHost.Json
