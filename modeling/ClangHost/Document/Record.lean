import ClangHost.Document.Fault

/-!
Records read from documents. A record starts from its default; a table sets the fields that it
names and its other keys are skipped; a list sets the fields in their order. Main statements: a
key of no field changes nothing (`readEntries_skip`), and a field may be set only once
(`readEntries_twice`).
-/
namespace ClangHost.Document

/-- What becomes of the elements of a list that a record has no fields for. -/
inductive Leftover where
  | malformed
  | ignored
  | reported
  deriving DecidableEq, Repr

/-- A field: its names, the first one for messages, and how a value sets it. -/
structure Field (S : Type) where
  name : String
  aliases : List String := []
  set : Leftover → Node → S → Except Fault S

structure Record (S : Type) where
  name : String
  fields : List (Field S)
  default : S

namespace Record

variable {S : Type}

def find? (r : Record S) (key : String) : Option (Field S × Nat) :=
  r.fields.zipIdx.find? fun (f, _) => f.name == key || f.aliases.contains key

/-- Sets fields from the entries of a table; `seen` holds the places of those already set. -/
def readEntries (r : Record S) (leftover : Leftover) (cut : Bool) :
    List Nat → S → List (Key × Option Span × Node) → Except Fault S
  | _, s, [] => if cut then .error .malformed else .ok s
  | seen, s, (key, span, value) :: rest =>
    match r.find? key.name with
    | none => readEntries r leftover cut seen s rest
    | some (field, place) =>
      if place ∈ seen then mismatch (.duplicateField field.name)
      else
        match field.set leftover value s with
        | .error fault => .error (fault.locate (span <|> key.span))
        | .ok s => readEntries r leftover cut (place :: seen) s rest

/-- Sets fields from the elements of a list; `total` is the length of the whole list. -/
def readItems (leftover : Leftover) (cut : Bool) (total : Nat) :
    List (Field S) → S → List (Option Span × Node) → Except Fault S
  | [], s, items =>
    match leftover with
    | .ignored => .ok s
    | .malformed => if items.isEmpty && !cut then .ok s else .error .malformed
    | .reported => if items.isEmpty then .ok s else mismatch (.tooLong total)
  | _ :: _, s, [] => if cut then .error .malformed else .ok s
  | field :: fields, s, (span, value) :: rest =>
    match field.set leftover value s with
    | .error fault => .error (fault.locate span)
    | .ok s => readItems leftover cut total fields s rest

def read (r : Record S) (leftover : Leftover) : Node → Except Fault S
  | .table entries cut => r.readEntries leftover cut [] r.default entries
  | .list items cut => readItems leftover cut items.length r.fields r.default items
  | x => x.refuse ("struct " ++ r.name)

theorem readEntries_skip {r : Record S} {key : Key} (h : r.find? key.name = none)
    (leftover : Leftover) (cut : Bool) (seen : List Nat) (s : S) (span : Option Span) (x : Node)
    (rest : List (Key × Option Span × Node)) :
    r.readEntries leftover cut seen s ((key, span, x) :: rest) =
      r.readEntries leftover cut seen s rest := by
  simp [readEntries, h]

theorem readEntries_twice {r : Record S} {key : Key} {field : Field S} {place : Nat}
    (h : r.find? key.name = some (field, place)) (leftover : Leftover) (cut : Bool)
    {seen : List Nat} (hs : place ∈ seen) (s : S) (span : Option Span) (x : Node)
    (rest : List (Key × Option Span × Node)) :
    r.readEntries leftover cut seen s ((key, span, x) :: rest) =
      mismatch (.duplicateField field.name) := by
  simp [readEntries, h, hs]

end Record

def Field.bool {S : Type} (name : String) (aliases : List String) (put : Bool → S → S) :
    Field S :=
  { name, aliases, set := fun _ x s => x.readBool.map (put · s) }

def Field.record {S T : Type} (name : String) (r : Record T) (put : T → S → S) : Field S :=
  { name, set := fun leftover x s => (r.read leftover x).map (put · s) }

end ClangHost.Document
