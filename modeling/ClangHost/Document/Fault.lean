import ClangHost.Document.Node
import ClangHost.Text.Quoted

/-!
Why a document does not hold the value asked for: its text is not well formed, or a value has
the wrong shape. A fault of shape may carry the place of the value; the innermost place wins.
-/
namespace ClangHost.Document

inductive Found where
  | null
  | bool (b : Bool)
  | integer (n : Int)
  | float (text : String)
  | text (s : String)
  | list
  | table
  deriving DecidableEq, Repr

def Found.phrase : Found → String
  | .null => "null"
  | .bool b => "boolean `" ++ (if b then "true" else "false") ++ "`"
  | .integer n => "integer `" ++ toString n ++ "`"
  | .float t => "floating point `" ++ t ++ "`"
  | .text s => "string " ++ Text.quoted s
  | .list => "sequence"
  | .table => "map"

inductive Mismatch where
  | wrongKind (found : Found) (expected : String)
  /-- A field given twice, by its first name. -/
  | duplicateField (name : String)
  | unknownVariant (name : String) (known : List String)
  | noAlternative (union : String)
  | tooLong (length : Nat)
  deriving DecidableEq, Repr

def nameList (names : List String) : String :=
  ", ".intercalate (names.map fun n => "`" ++ n ++ "`")

def Mismatch.message : Mismatch → String
  | .wrongKind found expected => "invalid type: " ++ found.phrase ++ ", expected " ++ expected
  | .duplicateField name => "duplicate field `" ++ name ++ "`"
  | .unknownVariant name known =>
    "unknown variant `" ++ name ++ "`, expected one of " ++ nameList known
  | .noAlternative union => "data did not match any variant of untagged enum " ++ union
  | .tooLong n => "invalid length " ++ toString n ++ ", expected fewer elements in array"

inductive Fault where
  | malformed
  | mismatch (cause : Mismatch) (span : Option Span)
  deriving DecidableEq, Repr

/-- Gives a fault of shape a place, unless it has one. -/
def Fault.locate (place : Option Span) : Fault → Fault
  | .mismatch cause none => .mismatch cause place
  | fault => fault

def mismatch {α : Type} (cause : Mismatch) : Except Fault α := .error (.mismatch cause none)

def Node.refuse {α : Type} (expected : String) : Node → Except Fault α
  | .null => mismatch (.wrongKind .null expected)
  | .bool b => mismatch (.wrongKind (.bool b) expected)
  | .integer n => mismatch (.wrongKind (.integer n) expected)
  | .float t => mismatch (.wrongKind (.float t) expected)
  | .text s => mismatch (.wrongKind (.text s) expected)
  | .list _ _ => mismatch (.wrongKind .list expected)
  | .table _ _ => mismatch (.wrongKind .table expected)
  | .unreadable => .error .malformed

def Node.readBool : Node → Except Fault Bool
  | .bool b => .ok b
  | x => x.refuse "a boolean"

def Node.readText : Node → Except Fault String
  | .text s => .ok s
  | x => x.refuse "a string"

def Node.readTextOrNull : Node → Except Fault (Option String)
  | .null => .ok none
  | x => x.readText.map some

end ClangHost.Document
