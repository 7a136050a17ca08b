import ClangHost.Config.Toml
import ClangHost.Files.Tree
import ClangHost.Trace

/-!
Configurations in files. A configuration is looked for in a directory and then in every directory
above it, as far as the text of the path shows them; in each directory two names are tried. Files
that cannot be used are skipped with a warning, and the first good one is taken. Main statement:
what is no file is passed over (`search_of_not_isFile`).
-/
namespace ClangHost.Config

def fileNames : List Bytes := ["cindex.toml", ".cindex.toml"].map fun s => Utf8.encode s.toList

def target : String := "cindex_bridge::config"

def load (f : Files) (p : Bytes) : Except Error Config :=
  match f.readText p with
  | .ok s => Config.ofToml s
  | .error cause => .error (.config (.unreadable p cause))

def candidates (start : Bytes) : List Bytes :=
  (Path.ancestors start).flatMap fun dir => fileNames.map (Path.join dir)

def loadedEvent (p : Bytes) : Event :=
  { level := .debug, target, message := "loaded configuration"
    fields := [("path", .text (shown p))] }

def skippedEvent (w : Wording) (p : Bytes) (e : Error) : Event :=
  { level := .warn, target, message := "skipping configuration"
    fields := [("path", .text (shown p)), ("error", .text (e.message w))] }

/-- The configuration of the first file that can be used. -/
def search {σ : Type} (w : Wording) (f : Files) (k : Sink σ) : List Bytes → StateM σ Config
  | [] => return {}
  | p :: rest => do
    if !f.isFile p then search w f k rest
    else match load f p with
      | .ok c =>
        k.put (loadedEvent p)
        return c
      | .error e =>
        k.put (skippedEvent w p e)
        search w f k rest

def discover {σ : Type} (w : Wording) (f : Files) (k : Sink σ) (start : Bytes) : StateM σ Config :=
  search w f k (candidates start)

theorem search_of_not_isFile {σ : Type} (w : Wording) (f : Files) (k : Sink σ) {p : Bytes}
    (rest : List Bytes) (h : f.isFile p = false) :
    search w f k (p :: rest) = search w f k rest := by
  simp [search, h]

end ClangHost.Config
