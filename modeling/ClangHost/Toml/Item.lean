import ClangHost.Document.Node

/-!
The tables of a TOML document while it is read. A table remembers how it came about, which
decides whether later statements may extend it: a header states a table once, a longer header
implies the tables on its path, a dotted key makes tables that only dotted keys extend.
-/
namespace ClangHost.Toml

open Document (Node Key Span)

inductive Origin where
  | header
  | implied
  | dotted
  deriving DecidableEq, Repr

inductive Item where
  | value (x : Node) (span : Option Span)
  | table (origin : Origin) (span : Option Span) (entries : List (Key × Item))
  | tables (span : Option Span) (elements : List Item)

namespace Item

def empty (origin : Origin) (span : Option Span) : Item := .table origin span []

def span? : Item → Option Span
  | .value _ span => span
  | .table _ span _ => span
  | .tables span _ => span

def split? (name : String) :
    List (Key × Item) → Option (List (Key × Item) × (Key × Item) × List (Key × Item))
  | [] => none
  | e :: rest =>
    if e.1.name = name then some ([], e, rest)
    else (split? name rest).map fun (before, found, after) => (e :: before, found, after)

/-- Changes the table at the end of a path and gives what the change gives. Missing tables are
made on the way; of an array of tables the last is meant. A dotted path may not enter a table
that a header states. -/
def update {α : Type} (dotted : Bool) (f : Item → Option (α × Item)) :
    List Key → Item → Option (α × Item)
  | [], t => f t
  | key :: path, .table origin span entries =>
    match split? key.name entries with
    | none => do
      let (a, child) ← update dotted f path (empty (if dotted then .dotted else .implied) none)
      some (a, .table origin span (entries ++ [(key, child)]))
    | some (before, (key, child), after) =>
      match child with
      | .value _ _ => none
      | .table childOrigin _ _ => do
        if dotted && childOrigin == .header then none
        let (a, child) ← update dotted f path child
        some (a, .table origin span (before ++ (key, child) :: after))
      | .tables arraySpan elements => do
        let last ← elements.getLast?
        let (a, last) ← update dotted f path last
        some (a, .table origin span
          (before ++ (key, .tables arraySpan (elements.dropLast ++ [last])) :: after))
  | _ :: _, _ => none

def insertNew (key : Key) (item : Item) : Item → Option Item
  | .table origin span entries =>
    if (split? key.name entries).isSome then none
    else some (.table origin span (entries ++ [(key, item)]))
  | _ => none

/-- Adds the value of a path of keys. All but the last key name tables made by dotted keys. -/
def assign (t : Item) (path : List Key) (key : Key) (item : Item) : Option Item :=
  let put : Item → Option (Unit × Item)
    | .table origin span entries =>
      if !path.isEmpty && origin != .dotted then none
      else (insertNew key item (.table origin span entries)).map ((), ·)
    | _ => none
  (update true put path t).map Prod.snd

mutual

def node : Item → Node
  | .value x _ => x
  | .table _ _ entries => .table (nodeEntries entries) false
  | .tables _ elements => .list (nodeItems elements) false

def nodeEntries : List (Key × Item) → List (Key × Option Span × Node)
  | [] => []
  | (key, item) :: rest => (key, item.span?, node item) :: nodeEntries rest

def nodeItems : List Item → List (Option Span × Node)
  | [] => []
  | item :: rest => (item.span?, node item) :: nodeItems rest

end

end Item
end ClangHost.Toml
