import ClangHost.Files.Tree

/-!
Files and directories that are made. A file is opened to be written at its end; where there is
none, an empty one is made. A log file is opened in two attempts, and between them all directories
above it are made. What was made stays, also where the opening fails in the end.
-/
namespace ClangHost.Files

/-- The place of something new in a directory, taken or not. Only a name leads to one. -/
def below (f : Files) (here : Location) (name : Bytes) : Except FileFault Location :=
  match f.root.at? here with
  | none => .error .notFound
  | some t =>
    if !t.isDirectory then .error .notDirectory
    else if Path.isTrivial name || name == Path.up then .error .alreadyThere
    else if FileTree.nameLimit < name.length then .error .nameTooLong
    else .ok (here ++ [name])

/-- The place at which a path puts something new: its last segment names it, and those before that
lead to the directory. -/
def newPlace (f : Files) (p : Bytes) : Except FileFault Location :=
  if (0 : UInt8) ∈ p then .error .nulInName
  else if p.isEmpty then .error .notFound
  else if FileTree.pathLimit ≤ p.length then .error .nameTooLong
  else do
    let here ← f.follow (if Path.isAbsolute p then [] else f.current) (Path.split p).dropLast
    f.below here ((Path.split p).getLast (Path.split_ne_nil p))

def add (f : Files) (item : FileTree) (place : Location) : Files :=
  { f with root := f.root.put item place }

def makeDirectory (f : Files) (p : Bytes) : Except FileFault Files :=
  match f.newPlace p with
  | .error cause => .error cause
  | .ok place =>
    if (f.root.at? place).isSome then .error .alreadyThere
    else .ok (f.add (.directory []) place)

/-- Makes the first of some directories, each of which is to be in the next one. -/
def makeDirectories (f : Files) : List Bytes → Bool × Files
  | [] => (false, f)
  | p :: above =>
    if p.isEmpty then (true, f)
    else match f.makeDirectory p with
      | .ok g => (true, g)
      | .error .notFound =>
        match f.makeDirectories above with
        | (false, g) => (false, g)
        | (true, g) =>
          match g.makeDirectory p with
          | .ok h => (true, h)
          | .error _ => (g.isDirectory p, g)
      | .error _ => (f.isDirectory p, f)

def openFile (f : Files) (p : Bytes) : Except FileFault (Location × Files) :=
  match f.newPlace p with
  | .error cause => .error cause
  | .ok place =>
    match f.root.at? place with
    | none => .ok (place, f.add (.file []) place)
    | some t => if t.isDirectory then .error .isDirectory else .ok (place, f)

def openLog (f : Files) (p : Bytes) : Option Location × Files :=
  match f.openFile p with
  | .ok (place, g) => (some place, g)
  | .error _ =>
    match f.makeDirectories (Path.ancestors p).tail with
    | (false, g) => (none, g)
    | (true, g) =>
      match g.openFile p with
      | .ok (place, h) => (some place, h)
      | .error _ => (none, g)

end ClangHost.Files
