import ClangHost.Document.Record
import ClangHost.Json.Value

/-!
Options of a parse. Each option owns one bit of the word that the engine takes.
-/
namespace ClangHost

structure ParseFlags where
  incomplete : Bool := false
  precompiledPreamble : Bool := false
  deriving DecidableEq, Repr, Inhabited

namespace ParseFlags

def incompleteBit : UInt32 := 0x02

def precompiledPreambleBit : UInt32 := 0x04

def encode (f : ParseFlags) : UInt32 :=
  (if f.incomplete then incompleteBit else 0)
    ||| (if f.precompiledPreamble then precompiledPreambleBit else 0)

/-- Options in documents; the preamble option has two spellings. -/
def record : Document.Record ParseFlags :=
  { name := "ParseFlags"
    fields := [
      .bool "incomplete" [] fun b f => { f with incomplete := b },
      .bool "precompiledPreamble" ["precompiled_preamble"] fun b f =>
        { f with precompiledPreamble := b }]
    default := {} }

def json (f : ParseFlags) : Json.Value :=
  .table [("incomplete", .bool f.incomplete), ("precompiledPreamble", .bool f.precompiledPreamble)]

end ParseFlags
end ClangHost
