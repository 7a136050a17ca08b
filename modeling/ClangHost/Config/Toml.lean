import ClangHost.Config.Basic
import ClangHost.Error
import ClangHost.Toml.Reader

/-!
Configurations read from TOML texts.
-/
namespace ClangHost.Config

def ofToml (s : String) : Except Error Config :=
  match Toml.decode (record.read .ignored) s with
  | .ok c => .ok c
  | .error .malformed => .error (.config (.malformed s))
  | .error (.mismatch cause span) => .error (.config (.shape s cause span))

end ClangHost.Config
