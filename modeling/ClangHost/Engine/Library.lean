import ClangHost.Engine.Text

/-!
Engine libraries and how the host binds to one. A library exports functions by name. A binding needs
all entry points; it is made exactly when all their names are exported (`bind_isOk_iff`), and then
every call goes to the function that is exported under the name of its entry point. The layout of
records is the host's own: no library is asked for it.
-/
namespace ClangHost

inductive EntryPoint where
  | createIndex
  | disposeIndex
  | createUnit
  | parseUnit
  | disposeUnit
  | unitCursor
  | defaultOptions
  | completeAt
  | disposeBlock
  | availability
  | priority
  | briefComment
  | chunkCount
  | chunkText
  | chunkKind
  | cString
  | disposeString
  deriving DecidableEq, Repr

namespace EntryPoint

def all : List EntryPoint :=
  [createIndex, disposeIndex, createUnit, parseUnit, disposeUnit, unitCursor, defaultOptions,
    completeAt, disposeBlock, availability, priority, briefComment, chunkCount, chunkText,
    chunkKind, cString, disposeString]

theorem mem_all (p : EntryPoint) : p ∈ all := by cases p <;> decide

def symbol : EntryPoint → String
  | createIndex => "clang_createIndex"
  | disposeIndex => "clang_disposeIndex"
  | createUnit => "clang_createTranslationUnitFromSourceFile"
  | parseUnit => "clang_parseTranslationUnit"
  | disposeUnit => "clang_disposeTranslationUnit"
  | unitCursor => "clang_getTranslationUnitCursor"
  | defaultOptions => "clang_defaultCodeCompleteOptions"
  | completeAt => "clang_codeCompleteAt"
  | disposeBlock => "clang_disposeCodeCompleteResults"
  | availability => "clang_getCompletionAvailability"
  | priority => "clang_getCompletionPriority"
  | briefComment => "clang_getCompletionBriefComment"
  | chunkCount => "clang_getNumCompletionChunks"
  | chunkText => "clang_getCompletionChunkText"
  | chunkKind => "clang_getCompletionChunkKind"
  | cString => "clang_getCString"
  | disposeString => "clang_disposeString"

end EntryPoint

/-- A loaded library: what was asked for, the file that was found, and the function behind each
name that it exports. -/
structure Library (σ : Type) where
  origin : Bytes
  file : Bytes
  lookup : String → Option (Engine σ)

namespace Library

variable {σ : Type}

def ofEngine (origin file : Bytes) (exported : String → Bool) (e : Engine σ) : Library σ :=
  { origin, file, lookup := fun name => if exported name then some e else none }

def undefined (l : Library σ) (name : String) : Error :=
  .symbol (.notFound name (shown l.file ++ ": undefined symbol: " ++ name))

def symbol (l : Library σ) (name : String) : Except Error (Engine σ) :=
  if name.toList.contains '\x00' then .error (.symbol .invalidName)
  else match l.lookup name with
    | some f => .ok f
    | none => .error (l.undefined name)

def debug (l : Library σ) : String :=
  "Library \x7b origin: " ++ Text.Quoting.path.bytes l.origin ++ " \x7d"

end Library

structure Binding (σ : Type) where
  library : Library σ
  bound : ∀ p : EntryPoint, (library.lookup p.symbol).isSome

namespace Binding

variable {σ : Type}

def missing? (l : Library σ) : Option EntryPoint :=
  EntryPoint.all.find? fun p => (l.lookup p.symbol).isNone

theorem isSome_of_missing?_eq_none {l : Library σ} (h : missing? l = none) (p : EntryPoint) :
    (l.lookup p.symbol).isSome := by
  have := List.find?_eq_none.1 h p p.mem_all
  simpa [Option.isSome_iff_ne_none] using this

/-- Looks up all entry points of a library; the error names the first that is missing. -/
def bind (l : Library σ) : Except Error (Binding σ) :=
  match h : missing? l with
  | none => .ok ⟨l, isSome_of_missing?_eq_none h⟩
  | some p => .error (l.undefined p.symbol)

theorem bind_isOk_iff (l : Library σ) :
    (bind l).isOk ↔ ∀ p : EntryPoint, (l.lookup p.symbol).isSome := by
  constructor
  · intro h
    cases hb : bind l with
    | error e => simp [hb, Except.isOk, Except.toBool] at h
    | ok b =>
      unfold bind at hb
      split at hb
      · rename_i hm
        exact isSome_of_missing?_eq_none hm
      · contradiction
  · intro h
    unfold bind
    split
    · rfl
    · rename_i p hp
      have hp := List.find?_some hp
      have hb := h p
      simp_all

def entry (b : Binding σ) (p : EntryPoint) : Engine σ :=
  (b.library.lookup p.symbol).get (b.bound p)

def engine (b : Binding σ) : Engine σ
  | .createIndex x y => b.entry .createIndex (.createIndex x y)
  | .disposeIndex h => b.entry .disposeIndex (.disposeIndex h)
  | .createUnit i s n a u z => b.entry .createUnit (.createUnit i s n a u z)
  | .parseUnit i s a n z u o => b.entry .parseUnit (.parseUnit i s a n z u o)
  | .disposeUnit h => b.entry .disposeUnit (.disposeUnit h)
  | .unitCursor h => b.entry .unitCursor (.unitCursor h)
  | .defaultOptions => b.entry .defaultOptions .defaultOptions
  | .completeAt h f l c z u o => b.entry .completeAt (.completeAt h f l c z u o)
  | .disposeBlock id => b.entry .disposeBlock (.disposeBlock id)
  | .recordLayout => return RecordLayout.host
  | .availability s => b.entry .availability (.availability s)
  | .priority s => b.entry .priority (.priority s)
  | .briefComment s => b.entry .briefComment (.briefComment s)
  | .chunkCount s => b.entry .chunkCount (.chunkCount s)
  | .chunkText s i => b.entry .chunkText (.chunkText s i)
  | .chunkKind s i => b.entry .chunkKind (.chunkKind s i)
  | .cString t => b.entry .cString (.cString t)
  | .disposeString t => b.entry .disposeString (.disposeString t)

def debug (b : Binding σ) : String :=
  "LibclangBinding \x7b library: " ++ b.library.debug ++ ", .. \x7d"

def loadedEvent (origin : Bytes) : Event :=
  { level := .debug, target := "cindex_bridge::interop::library"
    message := "loaded engine library", fields := [("library", .text (shown origin))] }

def boundEvent (origin : Bytes) : Event :=
  { level := .debug, target := "cindex_bridge::interop::native"
    message := "bound libclang entry points", fields := [("library", .text (shown origin))] }

end Binding
end ClangHost
