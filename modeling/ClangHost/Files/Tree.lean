import ClangHost.Error
import ClangHost.Files.Exports
import ClangHost.Files.Path

/-!
File trees without links. A path is resolved segment by segment from the root or from the working
directory; two dots lead to the directory above, and every step but the last must end in a
directory.
-/
namespace ClangHost

/-- Something in a file tree. A library is a file that can be loaded; of it only what it offers is
known. -/
inductive FileTree where
  | file (content : Bytes)
  | library (exports : Exports)
  | directory (entries : List (Bytes × FileTree))
  deriving Repr, Inhabited

abbrev Location := List Bytes

namespace FileTree

def nameLimit : Nat := 255

/-- The length from which on a path is refused. -/
def pathLimit : Nat := 4096

mutual

def count : FileTree → Nat
  | .directory entries => countAll entries
  | _ => 1

def countAll : List (Bytes × FileTree) → Nat
  | [] => 0
  | (_, t) :: rest => t.count + countAll rest

end

def child? (name : Bytes) : FileTree → Option FileTree
  | .directory entries => (entries.find? fun e => e.1 == name).map Prod.snd
  | _ => none

def at? (t : FileTree) : Location → Option FileTree
  | [] => some t
  | name :: rest => (t.child? name).bind fun c => c.at? rest

def isDirectory : FileTree → Bool
  | .directory _ => true
  | _ => false

/-- Changes what is at a place. Directories on the way are made where there is nothing; below a
file nothing can be changed. -/
def alter (f : Option FileTree → FileTree) : Location → Option FileTree → FileTree
  | [], t => f t
  | name :: rest, none => .directory [(name, alter f rest none)]
  | name :: rest, some (.directory entries) =>
    match entries.find? fun e => e.1 == name with
    | none => .directory (entries ++ [(name, alter f rest none)])
    | some (_, old) => .directory (entries.map fun e =>
        if e.1 == name then (name, alter f rest (some old)) else e)
  | _ :: _, some other => other

def makeDirectory (t : FileTree) (place : Location) : FileTree :=
  alter (·.getD (.directory [])) place (some t)

def put (t item : FileTree) (place : Location) : FileTree :=
  alter (fun _ => item) place (some t)

end FileTree

structure Files where
  root : FileTree
  current : Location := []
  searched : List Bytes := []

namespace Files

def follow (f : Files) : Location → List Bytes → Except FileFault Location
  | here, [] => .ok here
  | here, s :: rest =>
    match f.root.at? here with
    | none => .error .notFound
    | some t =>
      if !t.isDirectory then .error .notDirectory
      else if Path.isTrivial s then follow f here rest
      else if s = Path.up then follow f here.dropLast rest
      else if FileTree.nameLimit < s.length then .error .nameTooLong
      else if (t.child? s).isNone then .error .notFound
      else follow f (here ++ [s]) rest

def locate (f : Files) (p : Bytes) : Except FileFault Location :=
  if (0 : UInt8) ∈ p then .error .nulInName
  else if p.isEmpty then .error .notFound
  else if FileTree.pathLimit ≤ p.length then .error .nameTooLong
  else f.follow (if Path.isAbsolute p then [] else f.current) (Path.split p)

def resolve (f : Files) (p : Bytes) : Except FileFault FileTree := do
  match f.root.at? (← f.locate p) with
  | some t => .ok t
  | none => .error .notFound

def isFile (f : Files) (p : Bytes) : Bool :=
  match f.resolve p with
  | .ok t => !t.isDirectory
  | .error _ => false

def isDirectory (f : Files) (p : Bytes) : Bool :=
  match f.resolve p with
  | .ok t => t.isDirectory
  | .error _ => false

def readText (f : Files) (p : Bytes) : Except FileFault String := do
  match ← f.resolve p with
  | .directory _ => .error .isDirectory
  | .library _ => .error .notText
  | .file content =>
    match Utf8.decode? content with
    | some s => .ok (String.ofList s)
    | none => .error .notText

end Files
end ClangHost
