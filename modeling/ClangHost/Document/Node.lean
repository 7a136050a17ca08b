/-!
Trees of values read from a document, in reading order. Where the text of a document stops being
well formed the tree stops too: the lists and tables that were open there are marked as cut, and
a leaf that could not be read stands for itself. A reader of values that works from left to
right therefore meets the first fault of either kind, shape or text, before any later one.
-/
namespace ClangHost.Document

/-- A stretch of a document's bytes, from `start` up to but not including `stop`. -/
structure Span where
  start : Nat
  stop : Nat
  deriving DecidableEq, Repr

structure Key where
  name : String
  span : Option Span := none
  deriving DecidableEq, Repr

inductive Node where
  | null
  | bool (b : Bool)
  | integer (n : Int)
  | float (text : String)
  | text (s : String)
  | list (items : List (Option Span × Node)) (cut : Bool)
  | table (entries : List (Key × Option Span × Node)) (cut : Bool)
  /-- No value can be read here. -/
  | unreadable
  deriving Repr, Inhabited

namespace Node

mutual

def depth : Node → Nat
  | .list items _ => depthItems items + 1
  | .table entries _ => depthEntries entries + 1
  | _ => 0

def depthItems : List (Option Span × Node) → Nat
  | [] => 0
  | (_, x) :: rest => max (depth x) (depthItems rest)

def depthEntries : List (Key × Option Span × Node) → Nat
  | [] => 0
  | (_, _, x) :: rest => max (depth x) (depthEntries rest)

end

mutual

def whole : Node → Bool
  | .list items cut => !cut && wholeItems items
  | .table entries cut => !cut && wholeEntries entries
  | .unreadable => false
  | _ => true

def wholeItems : List (Option Span × Node) → Bool
  | [] => true
  | (_, x) :: rest => whole x && wholeItems rest

def wholeEntries : List (Key × Option Span × Node) → Bool
  | [] => true
  | (_, _, x) :: rest => whole x && wholeEntries rest

end

end Node
end ClangHost.Document
