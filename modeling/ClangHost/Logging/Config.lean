import ClangHost.Error
import ClangHost.Files.Path
import ClangHost.Trace

/-!
How the log is written: from which level on, in which form, and where to. A configuration may come
from variables of the environment; a value that is no text counts as not set.
-/
namespace ClangHost

inductive LogFormat where
  | pretty
  | compact
  | json
  deriving DecidableEq, Repr

/-- Where log lines go. A file is renamed daily: the date is put after its name. -/
inductive LogOutput where
  | stdout
  | stderr
  | file (directory name : String)
  deriving DecidableEq, Repr

structure LogConfig where
  level : Level := .info
  format : LogFormat := .compact
  output : LogOutput := .stderr
  spanEvents : Bool := false
  filter : Option String := none
  deriving DecidableEq, Repr

/-- Variables by name. A value may be any byte string. -/
abbrev Environment := List (String × Bytes)

def Environment.text? (env : Environment) (name : String) : Option String := do
  let value ← env.lookup name
  return String.ofList (← Utf8.decode? value)

def lowered (s : String) : String := String.ofList (s.toList.map Char.toLower)

def Level.ofWord? (s : String) : Option Level :=
  Level.all.find? fun l => lowered l.name == lowered s

/-- The format that a word names; any other word names the compact one. -/
def LogFormat.ofWord (s : String) : LogFormat :=
  match lowered s with
  | "pretty" => .pretty
  | "json" => .json
  | _ => .compact

namespace LogOutput

def defaultName : String := "cindex.log"

def ofPath (path : String) : LogOutput :=
  let p := Utf8.encode path.toList
  let directory := ((Path.parent? p).filter fun d => !d.isEmpty).elim "." shown
  let name := (Path.fileName? p).elim defaultName shown
  .file directory name

end LogOutput

namespace LogConfig

def ofVariables (var : String → Option String) : LogConfig :=
  { level := (var "CINDEX_LOG_LEVEL").elim .info fun s => (Level.ofWord? s).getD .info
    format := (var "CINDEX_LOG_FORMAT").elim .compact LogFormat.ofWord
    output := (var "CINDEX_LOG_FILE").elim .stderr LogOutput.ofPath
    spanEvents := (var "CINDEX_LOG_SPANS").isSome }

def ofEnvironment (env : Environment) : LogConfig := ofVariables env.text?

end LogConfig
end ClangHost
