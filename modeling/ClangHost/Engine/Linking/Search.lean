import ClangHost.Engine.Linking.Object

/-!
Finding the object that a name means. An object that is there already and answers to the name is
taken; else a file is looked for. A name with a slash is the path of the file. Any other name is
looked for in the directories that the asking object names, or, if it names none, in those that were
handed down to it, and then in those of the system.
-/
namespace ClangHost

structure Found where
  file : Bytes
  place : Location
  body : ObjectBody
  deriving Repr

namespace Linking

def inspect (f : Files) (name file : Bytes) : Except LinkFault Found :=
  match f.locate file, f.resolve file with
  | .error cause, _ | _, .error cause => .error (.unopened name (some cause))
  | .ok _, .ok (.directory _) => .error (.directory file)
  | .ok place, .ok (.library e) => .ok { file, place, body := .exports e }
  | .ok place, .ok (.file content) =>
    match Image.fault? content with
    | none => .ok { file, place, body := .image content }
    | some fault => .error (.image (if fault.isOfName then name else file) fault)

/-- The first of some files that is not passed over. If all are, the search ends with the fault of
the last one, unless one of them has words of another size. -/
def firstFound (f : Files) (name : Bytes) : LinkFault → List Bytes → Except LinkFault Found
  | last, [] => .error last
  | last, file :: rest =>
    match inspect f name file with
    | .ok found => .ok found
    | .error fault =>
      if !fault.isPassedOver then .error fault
      else firstFound f name (if last = .image name .wordSize then last else fault) rest

def directories (f : Files) : (asker : Option Object) → List Bytes
  | none => f.searched.map LibraryPath.asDirectory
  | some o => o.own ++ if o.isAloof then [] else f.searched.map LibraryPath.asDirectory

def find (f : Files) (asker : Option Object) (name : Bytes) : Except LinkFault Found :=
  if Path.slash ∈ name then inspect f name name
  else
    let files := (directories f asker).flatMap fun d => LibraryPath.below d name
    firstFound f name (.unopened name none) files

/-- The object of a file. Where its image has a path for itself alone, it wants only that to be
looked through; else its own path and what is handed down to it. -/
def objectOf (f : Files) (asker : Option Object) (name : Bytes) (found : Found) : Object :=
  let origin := LibraryPath.origin f.current found.file
  let along (path : Option Bytes) := path.map (LibraryPath.directories origin)
  let handed := asker.elim [] (·.handedDown)
  let (own, handedDown) := match found.body with
    | .exports _ => (handed, handed)
    | .image content =>
      let down := (along (Image.searchPath? content)).getD [] ++ handed
      ((along (Image.runPath? content)).getD down, down)
  { names := [name], file := found.file, place := some found.place, body := found.body, origin, own
    handedDown }

def obtain (f : Files) (objects : List Object) (asker : Option Object) (name : Bytes) :
    Except LinkFault (List Object × Nat) :=
  match objects.findIdx? (·.answersTo name) with
  | some i => .ok (objects.modify i (·.named name), i)
  | none =>
    match find f asker name with
    | .error fault => .error fault
    | .ok found =>
      match objects.findIdx? (·.place == some found.place) with
      | some i => .ok (objects.modify i (·.named name), i)
      | none => .ok (objects ++ [objectOf f asker name found], objects.length)

end Linking
end ClangHost
