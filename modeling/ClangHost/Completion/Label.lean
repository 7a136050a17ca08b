import ClangHost.Json.Reader

/-!
Closed sets of labels: the engine reports an integer, the documents of this library hold a label.
A label is read from a text, or from a table with the label as its only key and the value null.
Main statements: every member of the two sets is in its table (`mem_all`), and no two members
share a label (`label_injective`).
-/
namespace ClangHost

open Document (Node Fault Mismatch mismatch)

/-- A closed set of labels: its members in the order of the engine's integers, the label of each
in documents, and its name in diagnostics. -/
class Labelled (T : Type) where
  all : List T
  label : T → String
  name : T → String

inductive Availability where
  | available
  | deprecated
  | notAvailable
  | notAccessible
  deriving DecidableEq, Repr

namespace Availability

def all : List Availability := [available, deprecated, notAvailable, notAccessible]

def ofRaw? (n : Int32) : Option Availability :=
  if n < 0 then none else all[n.toInt.toNat]?

def label : Availability → String
  | available => "available"
  | deprecated => "deprecated"
  | notAvailable => "not available"
  | notAccessible => "not accessible"

def name : Availability → String
  | available => "Available"
  | deprecated => "Deprecated"
  | notAvailable => "NotAvailable"
  | notAccessible => "NotAccessible"

instance : Labelled Availability := ⟨all, label, name⟩

theorem mem_all (a : Availability) : a ∈ all := by cases a <;> decide

end Availability

inductive ChunkKind where
  | optional
  | typedText
  | text
  | placeholder
  | informative
  | currentParameter
  | leftParen
  | rightParen
  | leftBracket
  | rightBracket
  | leftBrace
  | rightBrace
  | leftAngle
  | rightAngle
  | comma
  | resultType
  | colon
  | semiColon
  | equal
  | horizontalSpace
  | verticalSpace
  | unknown
  deriving DecidableEq, Repr

namespace ChunkKind

def all : List ChunkKind :=
  [optional, typedText, text, placeholder, informative, currentParameter, leftParen, rightParen,
    leftBracket, rightBracket, leftBrace, rightBrace, leftAngle, rightAngle, comma, resultType,
    colon, semiColon, equal, horizontalSpace, verticalSpace, unknown]

/-- The member at an integer of the engine; outside the table the kind is unknown. -/
def ofRaw (n : Int32) : ChunkKind :=
  if n < 0 then unknown else all[n.toInt.toNat]?.getD unknown

def label : ChunkKind → String
  | optional => "Optional"
  | typedText => "TypedText"
  | text => "Text"
  | placeholder => "Placeholder"
  | informative => "Informative"
  | currentParameter => "CurrentParameter"
  | leftParen => "LeftParen"
  | rightParen => "RightParen"
  | leftBracket => "LeftBracket"
  | rightBracket => "RightBracket"
  | leftBrace => "LeftBrace"
  | rightBrace => "RightBrace"
  | leftAngle => "LeftAngle"
  | rightAngle => "RightAngle"
  | comma => "Comma"
  | resultType => "ResultType"
  | colon => "Colon"
  | semiColon => "SemiColon"
  | equal => "Equal"
  | horizontalSpace => "HorizontalSpace"
  | verticalSpace => "VerticalSpace"
  | unknown => "Unknown"

instance : Labelled ChunkKind := ⟨all, label, label⟩

theorem mem_all (k : ChunkKind) : k ∈ all := by cases k <;> decide

end ChunkKind

theorem Availability.label_injective {a b : Availability} (h : a.label = b.label) : a = b := by
  cases a <;> cases b <;> first | rfl | (simp [Availability.label] at h)

theorem ChunkKind.label_injective {a b : ChunkKind} (h : a.label = b.label) : a = b := by
  cases a <;> cases b <;> first | rfl | (simp [ChunkKind.label] at h)

namespace Labelled

variable {T : Type} [Labelled T]

def ofLabel? (s : String) : Option T := (all (T := T)).find? fun t => label t == s

def ofNode? : Node → Option T
  | .text s => ofLabel? s
  | .table [(key, _, .null)] false => ofLabel? key.name
  | _ => none

def ofLabel (s : String) : Except Fault T :=
  match ofLabel? s with
  | some t => .ok t
  | none => mismatch (.unknownVariant s ((all (T := T)).map label))

def tableEnd (s : List Char) : Except Fault (List Char) :=
  match Json.skipBlanks s with
  | ':' :: s =>
    match Json.value (2 * s.length + 2) s with
    | (.null, some s) =>
      match Json.skipBlanks s with
      | '\x7d' :: s => .ok s
      | _ => .error .malformed
    | (x, _) => x.refuse "unit"
  | _ => .error .malformed

/-- Reads a whole JSON text as a member. A label is judged as soon as it is read, so the rest of
the text is looked at only after a good one. A table whose first key is no text is not JSON. -/
def read (s : List Char) : Except Fault T :=
  match Json.skipBlanks s with
  | '"' :: s =>
    match Json.text? s with
    | some (some name, s) => do
      let t ← ofLabel (String.ofList name)
      finish t s
    | _ => .error .malformed
  | '\x7b' :: s =>
    match Json.value (2 * s.length + 2) s with
    | (.text name, some s) => do
      let t ← ofLabel name
      finish t (← tableEnd s)
    | _ => .error .malformed
  | _ => .error .malformed
where
  finish (t : T) (s : List Char) : Except Fault T :=
    if (Json.skipBlanks s).isEmpty then .ok t else .error .malformed

end Labelled
end ClangHost
