import ClangHost.Completion.Label
import ClangHost.Json.Value

/-!
Tags: a label, or the integer that the engine reported. A document holds the label as a text and
the integer as a number, and reading tries the label first. Main statement: reading what a tag
is written as gives the tag back (`read_node`).
-/
namespace ClangHost

open Document (Node Fault mismatch)

inductive Tag (T : Type) where
  | named (t : T)
  | raw (n : Int32)
  deriving DecidableEq, Repr

namespace Tag

variable {T : Type}

def named? : Tag T → Option T
  | .named t => some t
  | .raw _ => none

def raw? : Tag T → Option Int32
  | .named _ => none
  | .raw n => some n

variable [Labelled T]

def json : Tag T → Json.Value
  | .named t => .text (Labelled.label t)
  | .raw n => .integer n.toInt

def debug : Tag T → String
  | .named t => "Named(" ++ Labelled.name t ++ ")"
  | .raw n => "Raw(" ++ toString n.toInt ++ ")"

def word? (n : Int) : Option Int32 :=
  if Int32.minValue.toInt ≤ n ∧ n ≤ Int32.maxValue.toInt then some (Int32.ofInt n) else none

def ofNode? (x : Node) : Option (Tag T) :=
  match Labelled.ofNode? x with
  | some t => some (.named t)
  | none =>
    match x with
    | .integer n => (word? n).map .raw
    | _ => none

/-- Levels of lists and tables that a value may have where its shape is not known beforehand. -/
def depthLimit : Nat := 127

/-- Reads a tag. All of the value is read before its shape is looked at. -/
def read (x : Node) : Except Fault (Tag T) :=
  if x.whole && x.depth ≤ depthLimit then
    match ofNode? x with
    | some t => .ok t
    | none => mismatch (.noAlternative "Tag")
  else .error .malformed

theorem word?_toInt (n : Int32) : word? n.toInt = some n := by
  rw [word?, if_pos ⟨n.minValue_le_toInt, n.toInt_le⟩, Int32.ofInt_toInt]

theorem read_node (h : ∀ t : T, Labelled.ofLabel? (Labelled.label t) = some t) (tag : Tag T) :
    read tag.json.node = .ok tag := by
  cases tag with
  | named t => simp [json, Json.Value.node, read, ofNode?, Labelled.ofNode?, h, Node.whole,
      Node.depth]
  | raw n => simp [json, Json.Value.node, read, ofNode?, Labelled.ofNode?, word?_toInt,
      Node.whole, Node.depth]

end Tag
end ClangHost
