import ClangHost.Completion.Request
import ClangHost.Config.Basic

/-!
What the host does with an engine: it opens sessions, parses sources into units, asks a unit for
its root and for completions, and gives back whatever it opened. A session that was opened
elsewhere is used but not given back.
-/
namespace ClangHost

structure Host (σ : Type) where
  engine : Engine σ
  sink : Sink σ

/-- What the host does may fail, and changes the world also when it fails. -/
abbrev HostM (σ : Type) := ExceptT Error (StateM σ)

structure Index where
  raw : Handle
  owned : Bool
  deriving DecidableEq, Repr

namespace Index

variable {σ : Type}

def flag (b : Bool) : Int32 := if b then 1 else 0

def create (h : Host σ) (excludePch displayDiagnostics : Bool) : HostM σ Index := do
  let raw ← h.engine (.createIndex (flag excludePch) (flag displayDiagnostics))
  if raw = 0 then throw (.invalidHandle .index)
  h.sink.put
    { level := .debug, target := "cindex_bridge::index", message := "created engine session"
      fields := [("index", .text (addressText raw)), ("exclude_pch", .bool excludePch),
        ("display_diagnostics", .bool displayDiagnostics)] }
  return { raw, owned := true }

def ofConfig (h : Host σ) (c : EngineConfig) : HostM σ Index :=
  create h c.excludePch c.displayDiagnostics

def ofRaw (raw : Handle) : Except Error Index :=
  if raw = 0 then .error (.invalidHandle .index) else .ok { raw, owned := false }

def drop (e : Engine σ) (i : Index) : StateM σ Unit :=
  if i.owned then e (.disposeIndex i.raw) else pure ()

def debug (i : Index) : String :=
  "Index \x7b raw: " ++ addressText i.raw ++ ", owned: " ++ (if i.owned then "true" else "false")
    ++ " \x7d"

end Index

/-- A file that is to be read from memory. The engine is never told about it. -/
structure UnsavedFile where
  file : Bytes
  contents : String
  deriving DecidableEq, Repr

structure TranslationUnit where
  raw : Handle
  deriving DecidableEq, Repr

def argumentCount (n : Nat) : Except Error Int32 :=
  if n ≤ Int32.maxValue.toInt then .ok (Int32.ofNat n)
  else .error (.allocation "argument vector" (.tooManyArguments n))

structure ParseInput where
  source : CString
  args : Option (List CString)
  count : Int32

namespace TranslationUnit

variable {σ : Type}

def target : String := "cindex_bridge::translation_unit"

def marshal (h : Host σ) (file : Bytes) (args : List String) : HostM σ ParseInput := do
  let (copied, arena) := (do
    let source ← Arena.path file
    let buffer ← Arena.marshal args
    return (source, buffer) : ExceptT Error (StateM Arena) (Slot × ArgumentBuffer)).run.run .empty
  let (source, buffer) ← copied
  h.sink.put buffer.event
  return { source := arena.pointer source, args := buffer.pointers arena
           count := ← argumentCount buffer.length }

def ofRaw (raw : Handle) : Except Error TranslationUnit :=
  if raw = 0 then .error (.invalidHandle .translationUnit) else .ok ⟨raw⟩

def ofSource (h : Host σ) (index : Index) (file : Bytes) (args : List String) :
    HostM σ TranslationUnit := do
  let input ← marshal h file args
  h.sink.put
    { level := .debug, target, message := "creating translation unit from source"
      fields := [("file", .text (shown file)), ("args", .integer input.count.toInt)] }
  ofRaw (← h.engine (.createUnit index.raw input.source input.count input.args 0 true))

/-- Parses a source file with options. Files in memory are counted and otherwise left out. -/
def parse (h : Host σ) (index : Index) (file : Bytes) (args : List String)
    (unsaved : List UnsavedFile) (flags : ParseFlags) : HostM σ TranslationUnit := do
  let input ← marshal h file args
  if !unsaved.isEmpty then
    h.sink.put
      { level := .debug, target, message := "ignoring unsaved file overrides"
        fields := [("count", .integer unsaved.length)] }
  h.sink.put
    { level := .debug, target, message := "parsing translation unit"
      fields := [("file", .text (shown file)), ("args", .integer input.count.toInt),
        ("flags", .integer flags.encode.toNat)] }
  ofRaw (← h.engine
    (.parseUnit index.raw input.source input.args input.count true 0 flags.encode))

/-- The root of a unit, asked from the engine each time. -/
def cursor (e : Engine σ) (u : TranslationUnit) : HostM σ CursorHandle := do
  let c ← e (.unitCursor u.raw)
  if c.isNull then throw (.invalidHandle .cursor)
  return c

def completeAt (h : Host σ) (u : TranslationUnit) (q : CompletionRequest) :
    HostM σ (List Candidate) :=
  Completion.run h.engine (.tracing h.sink) u.raw q

def completeWith (e : Engine σ) (u : TranslationUnit) (file : Bytes) (line column : UInt32)
    (c : CompletionConfig) (o : Observer σ) : HostM σ (List Candidate) :=
  Completion.run e o u.raw { file, line, column, raw := c.raw }

def drop (e : Engine σ) (u : TranslationUnit) : StateM σ Unit := e (.disposeUnit u.raw)

def debug (u : TranslationUnit) : String :=
  "TranslationUnit \x7b raw: " ++ addressText u.raw ++ " \x7d"

end TranslationUnit

def CursorHandle.debug (c : CursorHandle) : String :=
  "CXCursor \x7b kind: " ++ toString c.kind.toInt ++ ", xdata: " ++ toString c.xdata.toInt
    ++ ", data: [" ++ addressText c.data.1 ++ ", " ++ addressText c.data.2.1 ++ ", "
    ++ addressText c.data.2.2 ++ "] \x7d"

end ClangHost
