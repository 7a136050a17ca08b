import ClangHost.Config.Flags
import ClangHost.Json.Reader

/-!
The configuration of the host: which engine library to use and how to start a session, how to
parse, and how to report completions.
-/
namespace ClangHost

structure EngineConfig where
  libraryPath : Option String := none
  excludePch : Bool := false
  displayDiagnostics : Bool := false
  deriving DecidableEq, Repr, Inhabited

structure CompletionConfig where
  raw : Bool := false
  deriving DecidableEq, Repr, Inhabited

structure Config where
  engine : EngineConfig := {}
  parse : ParseFlags := {}
  completion : CompletionConfig := {}
  deriving DecidableEq, Repr, Inhabited

def EngineConfig.record : Document.Record EngineConfig :=
  { name := "EngineConfig"
    fields := [
      { name := "library_path"
        set := fun _ x c => x.readTextOrNull.map fun p => { c with libraryPath := p } },
      .bool "exclude_pch" [] fun b c => { c with excludePch := b },
      .bool "display_diagnostics" [] fun b c => { c with displayDiagnostics := b }]
    default := {} }

def CompletionConfig.record : Document.Record CompletionConfig :=
  { name := "CompletionConfig"
    fields := [.bool "raw" [] fun b c => { c with raw := b }]
    default := {} }

namespace Config

def record : Document.Record Config :=
  { name := "BridgeConfig"
    fields := [
      .record "engine" EngineConfig.record fun e c => { c with engine := e },
      .record "parse" ParseFlags.record fun p c => { c with parse := p },
      .record "completion" CompletionConfig.record fun p c => { c with completion := p }]
    default := {} }

def json (c : Config) : Json.Value :=
  .table [
    ("engine", .table [
      ("library_path", c.engine.libraryPath.elim .null .text),
      ("exclude_pch", .bool c.engine.excludePch),
      ("display_diagnostics", .bool c.engine.displayDiagnostics)]),
    ("parse", c.parse.json),
    ("completion", .table [("raw", .bool c.completion.raw)])]

def ofJson (s : String) : Except Document.Fault Config :=
  Json.decode (record.read .malformed) s.toList

end Config

def ParseFlags.ofJson (s : String) : Except Document.Fault ParseFlags :=
  Json.decode (ParseFlags.record.read .malformed) s.toList

end ClangHost
