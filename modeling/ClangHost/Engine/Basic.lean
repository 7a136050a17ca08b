import ClangHost.Text.Utf8

/-!
The engine as the host sees it: entry points that are called with plain words, C strings and
handles, and that answer at once. An engine is any function from calls to answers that may
change a world of states; nothing is assumed about how its answers hang together.
-/
namespace ClangHost

/-- A handle of a session or of a parsed unit; zero is the null handle. -/
abbrev Handle := UInt64

/-- An address in the engine's memory; zero is null. -/
abbrev Address := UInt64

/-- What a pointer to a C string leads to: nothing, or bytes of which the first NUL ends them. -/
abbrev CString := Option Bytes

structure RecordLayout where
  size : UInt64
  align : UInt64
  /-- The offset of the completion string, where the record has one. -/
  completionString : Option UInt64
  deriving DecidableEq, Repr

def RecordLayout.host : RecordLayout := { size := 16, align := 8, completionString := some 8 }

/-- One completion record. The completion string is null when it is zero. -/
structure CompletionRecord where
  cursorKind : Int32
  string : Address
  deriving DecidableEq, Repr

structure ResultBlock where
  id : Nat
  count : UInt32
  base : Address
  record : Nat → CompletionRecord

/-- A text that the engine owns until it is disposed; without data it is the null string. -/
structure EngineString where
  data : Option Nat
  flags : UInt32
  deriving DecidableEq, Repr

def EngineString.null : EngineString := { data := none, flags := 0 }

structure CursorHandle where
  kind : Int32
  xdata : Int32
  data : Address × Address × Address
  deriving DecidableEq, Repr

namespace CursorHandle

def translationUnitKind : Int32 := 300

def null : CursorHandle := { kind := 70, xdata := 0, data := (0, 0, 0) }

/-- A reference without data leads nowhere, whatever its kind. -/
def isNull (c : CursorHandle) : Bool := c.data.1 == 0 && c.data.2.1 == 0 && c.data.2.2 == 0

end CursorHandle

/-- A call of an entry point, its arguments in the order that the entry point takes them. Vectors
of arguments and of unsaved files may be null. -/
inductive Call where
  | createIndex (excludePch displayDiagnostics : Int32)
  | disposeIndex (index : Handle)
  | createUnit (index : Handle) (source : CString) (argCount : Int32)
      (args : Option (List CString)) (unsavedCount : UInt32) (unsavedNull : Bool)
  | parseUnit (index : Handle) (source : CString) (args : Option (List CString))
      (argCount : Int32) (unsavedNull : Bool) (unsavedCount : UInt32) (options : UInt32)
  | disposeUnit (unit : Handle)
  | unitCursor (unit : Handle)
  | defaultOptions
  | completeAt (unit : Handle) (file : CString) (line column : UInt32) (unsavedNull : Bool)
      (unsavedCount : UInt32) (options : UInt32)
  | disposeBlock (block : Nat)
  | recordLayout
  | availability (string : Address)
  | priority (string : Address)
  | briefComment (string : Address)
  | chunkCount (string : Address)
  | chunkText (string : Address) (chunk : UInt32)
  | chunkKind (string : Address) (chunk : UInt32)
  | cString (string : EngineString)
  | disposeString (string : EngineString)
  deriving DecidableEq, Repr

@[reducible] def Call.Answer : Call → Type
  | .createIndex _ _ => Handle
  | .disposeIndex _ => Unit
  | .createUnit _ _ _ _ _ _ => Handle
  | .parseUnit _ _ _ _ _ _ _ => Handle
  | .disposeUnit _ => Unit
  | .unitCursor _ => CursorHandle
  | .defaultOptions => UInt32
  | .completeAt _ _ _ _ _ _ _ => Option ResultBlock
  | .disposeBlock _ => Unit
  | .recordLayout => RecordLayout
  | .availability _ => Int32
  | .priority _ => UInt32
  | .briefComment _ => EngineString
  | .chunkCount _ => UInt32
  | .chunkText _ _ => EngineString
  | .chunkKind _ _ => Int32
  | .cString _ => CString
  | .disposeString _ => Unit

abbrev Engine (σ : Type) := (c : Call) → StateM σ c.Answer

namespace Engine

variable {σ : Type}

def onPart {ω : Type} (part : ω → σ) (put : σ → ω → ω) (e : Engine σ) : Engine ω :=
  fun c w => let (a, s) := e c (part w); (a, put s w)

def noted (note : Call → StateM σ Unit) (e : Engine σ) : Engine σ := fun c => do
  note c
  e c

end Engine
end ClangHost
