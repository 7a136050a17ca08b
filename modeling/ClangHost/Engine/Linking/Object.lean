import ClangHost.Engine.Image.Relocation
import ClangHost.Engine.Linking.Fault
import ClangHost.Engine.Linking.LibraryPath
import ClangHost.Engine.Linking.SystemLibrary

/-!
Objects: what a running program consists of. Some are there from the start; the others are files
that were found for a name. An object answers to every name that it was given.
-/
namespace ClangHost

inductive ObjectBody where
  | image (content : Bytes)
  | exports (e : Exports)
  deriving Repr

structure Object where
  names : List Bytes
  file : Bytes
  place : Option Location
  body : ObjectBody
  origin : Bytes := []
  /-- The directories in which it wants the libraries to be looked for that it needs. -/
  own : List Bytes := []
  /-- The directories that it and those who needed it name for all that is needed below them. -/
  handedDown : List Bytes := []
  deriving Repr

namespace Object

def ownName? (o : Object) : Option Bytes :=
  match o.body with
  | .image content => Image.ownName? content
  | .exports _ => none

def isCalled (o : Object) (name : Bytes) : Bool := o.file == name || o.names.contains name

def answersTo (o : Object) (name : Bytes) : Bool := o.isCalled name || o.ownName? == some name

def named (o : Object) (name : Bytes) : Object := { o with names := o.names ++ [name] }

def needs (o : Object) : List Need :=
  match o.body with
  | .image content => (Image.needs content).map fun n =>
      { n with name := LibraryPath.expand o.origin n.name }
  | .exports _ => []

def isAloof (o : Object) : Bool :=
  match o.body with
  | .image content => Image.isAloof content
  | .exports _ => false

def offers (o : Object) (r : Reference) : Bool :=
  match o.body with
  | .image content => Image.offers content r
  | .exports e =>
    let known (bs : Bytes) := (Utf8.decode? bs).map String.ofList
    match known r.name, r.version with
    | none, _ => false
    | some name, none => e.has name
    | some name, some v =>
      if e.isVersioned then
        v.hash == Image.hash v.name && (known v.name).any fun version => e.hasAs version name
      else e.has name

/-- An object that is there from the start; the name of its file in the directory of the system can
differ from the path that it is known by. -/
def present (path : String) (name : Option String) (e : Exports) : Object :=
  let bytes (s : String) : Bytes := Utf8.encode s.toList
  let inSystem (n : String) : Bytes := Path.join SystemLibrary.directory (bytes n)
  { names := (name.map bytes).toList, file := bytes path, body := .exports e
    place := name.map fun n => (Path.split (inSystem n)).filter (!Path.isTrivial ·) }

def resident : List Object :=
  [present "" none {},
    present "linux-vdso.so.1" none SystemLibrary.systemPage,
    present "/lib/x86_64-linux-gnu/libgcc_s.so.1" (some "libgcc_s.so.1") SystemLibrary.support,
    present "/lib/x86_64-linux-gnu/libc.so.6" (some "libc.so.6") SystemLibrary.cLibrary,
    present "/lib64/ld-linux-x86-64.so.2" (some "ld-linux-x86-64.so.2") SystemLibrary.loader]

def global : List Object := resident.filter (·.place.isSome)

end Object
end ClangHost
