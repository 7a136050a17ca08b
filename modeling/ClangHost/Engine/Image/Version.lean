import ClangHost.Engine.Image.Dynamic
import ClangHost.Engine.Image.Hash

/-!
Versions of names. An image may require versions of the libraries that it needs, and may itself
define versions of the names that it offers. Inside an image a version has a number, and every
symbol has the number of its version.
-/
namespace ClangHost

/-- A version: its name, and a hash that must fit to it. One that is strict is met by no symbol of
another version, not even by one without a version. -/
structure Version where
  hash : Nat
  name : Bytes
  isStrict : Bool
  deriving DecidableEq, Repr

def Version.agrees (v w : Version) : Bool := v.hash == w.hash && v.name == w.name

structure RequiredVersion where
  library : Bytes
  number : Nat
  version : Version
  isOptional : Bool
  deriving DecidableEq, Repr

structure DefinedVersion where
  format : Nat
  number : Nat
  isBase : Bool
  version : Version
  deriving DecidableEq, Repr

namespace Image

/-- The number of a version, without the mark of names that are kept for old images only. -/
def versionNumber (n : Nat) : Nat := n % 0x8000

def isMarked (n : Nat) : Bool := n.testBit 15

def requirementFormat? (image : Bytes) : Option Nat :=
  (value? image 0x6ffffffe).map fun place => numberAt image place 2

def requiredVersion (image library : Bytes) (place : Nat) : RequiredVersion :=
  let mark := numberAt image (place + 6) 2
  { library, number := versionNumber mark
    version := ⟨numberAt image place 4, name image (numberAt image (place + 8) 4), isMarked mark⟩
    isOptional := (numberAt image (place + 4) 2).testBit 1 }

def requiredVersions (image : Bytes) : List RequiredVersion :=
  match value? image 0x6ffffffe with
  | none => []
  | some table =>
    (records image 12 table).flatMap fun place =>
      let library := name image (numberAt image (place + 4) 4)
      (records image 12 (place + numberAt image (place + 8) 4)).map (requiredVersion image library)

def definedVersions (image : Bytes) : List DefinedVersion :=
  match value? image 0x6ffffffc with
  | none => []
  | some table =>
    (records image 16 table).map fun place =>
      let text := name image (numberAt image (place + numberAt image (place + 12) 4) 4)
      { format := numberAt image place 2
        number := versionNumber (numberAt image (place + 4) 2)
        isBase := (numberAt image (place + 2) 2).testBit 0
        version := ⟨numberAt image (place + 8) 4, text, false⟩ }

def isVersioned (image : Bytes) : Bool :=
  (requiredVersions image).any (·.number != 0) || (definedVersions image).any (·.number != 0)

/-- The version that has a number, of several the last; a version that is defined counts more than
one that is required. A version whose hash is zero is none. -/
def version? (image : Bytes) (number : Nat) : Option Version :=
  let required := (requiredVersions image).filter (·.number == number)
  let defined := (definedVersions image).filter fun d => !d.isBase && d.number == number
  (required.map (·.version) ++ defined.map (·.version)).getLast?.filter (·.hash != 0)

def versionNote (image : Bytes) (index : Nat) : Nat :=
  (value? image 0x6ffffff0).elim 0 fun table => numberAt image (table + 2 * index) 2

def versionOf? (image : Bytes) (index : Nat) : Option Version :=
  (value? image 0x6ffffff0).bind fun _ => version? image (versionNumber (versionNote image index))

end Image
end ClangHost
