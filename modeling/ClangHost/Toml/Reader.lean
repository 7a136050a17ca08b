import ClangHost.Document.Fault
import ClangHost.Toml.Item
import ClangHost.Toml.Lexeme

/-!
TOML documents read into trees with the place of every value. The statements of a document are
taken in turn: assignments go to the table of the last header, and a header first puts the table
before it into the tree. A document that breaks a rule is refused as a whole.
-/
namespace ClangHost.Toml

open Document (Node Key Span Fault)

namespace Scan

def elements (element : Scan (Node × Span)) : Nat → Scan (List (Option Span × Node))
  | 0 => failure
  | fuel + 1 => do
    gap (← Scan.fuel)
    if (← peek) == some ']' then
      char ']'
      return []
    let (x, span) ← element
    gap (← Scan.fuel)
    match ← any with
    | ',' => return (some span, x) :: (← elements element fuel)
    | ']' => return [(some span, x)]
    | _ => failure

def assignment (element : Scan (Node × Span)) : Scan (List Key × Key × Node × Span) := do
  let keys ← path
  char '='
  blanks
  let (x, span) ← element
  let some key := keys.getLast? | failure
  return (keys.dropLast, key, x, span)

def assignments (element : Scan (Node × Span)) : Nat → Item → Scan Item
  | 0, _ => failure
  | fuel + 1, table => do
    let (path, key, x, span) ← assignment element
    let some table := table.assign path key (.value x (some span)) | failure
    blanks
    match ← any with
    | ',' => assignments element fuel table
    | '\x7d' => return table
    | _ => failure

def scalar : Scan Node := do
  match ← peek with
  | some '"' | some '\'' => return .text (String.ofList (← text))
  | some 't' => word ['t', 'r', 'u', 'e']; return .bool true
  | some 'f' => word ['f', 'a', 'l', 's', 'e']; return .bool false
  | some 'i' | some 'n' => specialFloat
  | _ => number

/-- A value and where it stands; as many levels of lists and inline tables may be opened. -/
def value : (levels : Nat) → Scan (Node × Span)
  | 0 => spanned scalar
  | levels + 1 => spanned do
    match ← peek with
    | some '[' =>
      char '['
      return .list (← elements (value levels) (← fuel)) false
    | some '\x7b' =>
      char '\x7b'
      blanks
      if (← peek) == some '\x7d' then
        char '\x7d'
        return .table [] false
      return (← assignments (value levels) (← fuel) (Item.empty .header none)).node
    | _ => scalar

end Scan

/-- The statements read so far: the tree, and the table of the last header with its path. -/
structure Builder where
  root : Item
  current : Item
  path : List Key
  inArray : Bool

namespace Builder

def start : Builder :=
  { root := .empty .header none, current := .empty .header (some ⟨0, 0⟩), path := []
    inArray := false }

def append (table : Item) (elements : List Item) : Item :=
  let elements := elements ++ [table]
  let span := do
    let first ← (← elements.head?).span?
    let last ← table.span?
    some ⟨first.start, last.stop⟩
  Item.tables span elements

def close (b : Builder) : Option Item :=
  match b.path.getLast? with
  | none => some b.current
  | some key =>
    let put : Item → Option (Unit × Item)
      | .table origin span entries =>
        match Item.split? key.name entries with
        | none =>
          let item := if b.inArray then append b.current [] else b.current
          some ((), .table origin span (entries ++ [(key, item)]))
        | some (before, (key, found), after) =>
          match found, b.inArray with
          | .tables _ elements, true =>
            some ((), .table origin span (before ++ (key, append b.current elements) :: after))
          | .table foundOrigin _ _, false =>
            if foundOrigin = .header then none
            else some ((), .table origin span (before ++ (key, b.current) :: after))
          | _, _ => none
      | _ => none
    (Item.update false put b.path.dropLast b.root).map Prod.snd

/-- Takes a value for the table at hand, which now extends to the end of the value. -/
def assign (b : Builder) (path : List Key) (key : Key) (x : Node) (span : Span) :
    Option Builder := do
  let current := match b.current with
    | .table origin place entries =>
      Item.table origin (place.map fun (p : Span) => Span.mk p.start span.stop) entries
    | other => other
  some { b with current := ← current.assign path key (.value x (some span)) }

/-- Begins the table of a header. A table that longer headers implied keeps its entries. -/
def openTable (b : Builder) (path : List Key) (span : Span) : Option Builder := do
  let root ← b.close
  let key ← path.getLast?
  let take : Item → Option (List (Key × Item) × Item)
    | .table origin place entries =>
      match Item.split? key.name entries with
      | none => some ([], .table origin place entries)
      | some (before, (_, .table .implied _ inner), after) =>
        some (inner, .table origin place (before ++ after))
      | some _ => none
    | _ => none
  let (entries, root) ← Item.update false take path.dropLast root
  some { root, current := .table .header (some span) entries, path, inArray := false }

def openElement (b : Builder) (path : List Key) (span : Span) : Option Builder := do
  let root ← b.close
  let key ← path.getLast?
  let check : Item → Option (Unit × Item)
    | .table origin place entries =>
      match Item.split? key.name entries with
      | none => some ((), .table origin place (entries ++ [(key, .tables none [])]))
      | some (_, (_, .tables _ _), _) => some ((), .table origin place entries)
      | some _ => none
    | _ => none
  let (_, root) ← Item.update false check path.dropLast root
  some { root, current := .empty .header (some span), path, inArray := true }

end Builder

namespace Scan

def header (opening closing : List Char) : Scan (List Key × Span) := do
  let (keys, span) ← spanned do
    word opening
    let keys ← path
    word closing
    return keys
  lineTrailing
  return (keys, span)

def statements : Nat → Builder → Scan Builder
  | 0, _ => failure
  | fuel + 1, b => do
    blanks
    match ← peek with
    | none => return b
    | some '#' =>
      comment
      lineEnd
      statements fuel b
    | some '\n' | some '\r' =>
      newline
      statements fuel b
    | some '[' =>
      if (← ahead 2) == ['[', '['] then
        let (keys, span) ← header ['[', '['] [']', ']']
        let some b := b.openElement keys span | failure
        statements fuel b
      else
        let (keys, span) ← header ['['] [']']
        let some b := b.openTable keys span | failure
        statements fuel b
    | some _ =>
      let (keys, key, x, span) ← assignment (value (depthLimit - 1))
      lineTrailing
      let some b := b.assign keys key x span | failure
      statements fuel b

def document : Scan Node := do
  if (← peek) == some (Char.ofNat 0xFEFF) then discard any
  let b ← statements (← fuel) Builder.start
  let some root := b.close | failure
  return root.node

end Scan

def read? (s : String) : Option Node := Scan.document.run? s.toList

def decode {α : Type} (f : Node → Except Fault α) (s : String) : Except Fault α :=
  match read? s with
  | none => .error .malformed
  | some root => f root

end ClangHost.Toml
