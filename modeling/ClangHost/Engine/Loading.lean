import ClangHost.Config.Basic
import ClangHost.Engine.Library
import ClangHost.Engine.Linking.Resolution

/-!
Choosing and loading the engine library. Exactly one library is tried: the configured one, or the
one that the environment names, or the one of the default name. A directory named by the environment
stands for the library of the default name in it.
-/
namespace ClangHost

inductive LibraryChoice where
  | path (p : Bytes)
  | system
  deriving DecidableEq, Repr

namespace LibraryChoice

def defaultName : String := "libclang.so"

/-- Chooses the library; `named` is what the environment names. -/
def choose (f : Files) (configured : Option String) (named : Option Bytes) : LibraryChoice :=
  match configured, named with
  | some p, _ => .path (Utf8.encode p.toList)
  | none, some p =>
    .path (if f.isDirectory p then Path.join p (Utf8.encode defaultName.toList) else p)
  | none, none => .system

end LibraryChoice

namespace Library

variable {σ : Type}

def loadFile (f : Files) (k : Sink σ) (e : Engine σ) (p : Bytes) :
    ExceptT Error (StateM σ) (Library σ) := do
  match Linking.link f p with
  | .error fault => throw (.load (.failed p fault.message))
  | .ok l =>
    k.put (Binding.loadedEvent p)
    return .ofEngine p l.file l.exported e

def loadPath (f : Files) (k : Sink σ) (e : Engine σ) (p : Bytes) :
    ExceptT Error (StateM σ) (Library σ) :=
  if p.isEmpty then throw (.load .invalidName) else loadFile f k e p

def loadName (f : Files) (k : Sink σ) (e : Engine σ) (name : String) :
    ExceptT Error (StateM σ) (Library σ) :=
  if name.isEmpty || name.toList.contains '\x00' then throw (.load .invalidName)
  else loadFile f k e (Utf8.encode name.toList)

def bound (k : Sink σ) (l : Library σ) : ExceptT Error (StateM σ) (Binding σ) := do
  let b ← Binding.bind l
  k.put (Binding.boundEvent l.origin)
  return b

def bindChosen (f : Files) (k : Sink σ) (e : Engine σ) (c : EngineConfig)
    (named : Option Bytes) : ExceptT Error (StateM σ) (Binding σ) := do
  match LibraryChoice.choose f c.libraryPath named with
  | .path p => bound k (← loadPath f k e p)
  | .system => bound k (← loadName f k e LibraryChoice.defaultName)

end Library
end ClangHost
