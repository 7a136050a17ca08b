import ClangHost.Engine.Image.Memory

/-!
The dynamic section of an image: a list of tags and values that says how the image may be used, what
it is called, what other libraries it needs and where to look for them. The list ends with the tag
zero. An image that says where its own needs are to be found does not say it for others.
-/
namespace ClangHost

inductive NeedKind where
  | needed
  /-- The library must be there, and comes before the image. -/
  | filter
  /-- The library may be missing, and comes before the image. -/
  | auxiliary
  deriving DecidableEq, Repr

def NeedKind.ofTag? : Nat → Option NeedKind
  | 1 => some .needed
  | 0x7fffffff => some .filter
  | 0x7ffffffd => some .auxiliary
  | _ => none

structure Need where
  kind : NeedKind
  name : Bytes
  deriving DecidableEq, Repr

namespace Image

/-- The entries of a dynamic section up to the one with the tag zero: tags and values. -/
def entries : (fuel : Nat) → Bytes → List (Nat × Nat)
  | 0, _ => []
  | fuel + 1, bytes =>
    let tag := number bytes 0 8
    if tag = 0 then [] else (tag, number bytes 8 8) :: entries fuel (bytes.drop 16)

/-- The dynamic section of an image. Every entry but the last has a byte in the file, which bounds
their number. -/
def dynamicSection (image : Bytes) : List (Nat × Nat) :=
  let bytes := memoryFrom image (dynamicAddress image)
  entries (bytes.length / 16 + 1) bytes

/-- The value of a tag in the dynamic section, of equal tags the last. -/
def value? (image : Bytes) (tag : Nat) : Option Nat :=
  ((dynamicSection image).filter (·.1 == tag)).getLast?.map Prod.snd

def uses (image : Bytes) : Nat := (value? image 0x6ffffffb).getD 0

def isBoundNow (image : Bytes) : Bool :=
  (value? image 24).isSome || ((value? image 30).getD 0).testBit 3 || (uses image).testBit 0

/-- Must the libraries that an image needs be found without the directories of the system? -/
def isAloof (image : Bytes) : Bool := (uses image).testBit 11

/-! ## Names -/

def namesPlace (image : Bytes) : Nat := (value? image 5).getD 0

def name (image : Bytes) (place : Nat) : Bytes := textAt image (namesPlace image + place)

def ownName? (image : Bytes) : Option Bytes := (value? image 14).map (name image)

/-- Where the libraries are that an image needs itself. -/
def runPath? (image : Bytes) : Option Bytes := (value? image 29).map (name image)

/-- Where the libraries are that an image needs, and those that they need in turn. -/
def searchPath? (image : Bytes) : Option Bytes :=
  if (runPath? image).isSome then none else (value? image 15).map (name image)

def needs (image : Bytes) : List Need :=
  (dynamicSection image).filterMap fun e =>
    (NeedKind.ofTag? e.1).map fun kind => ⟨kind, name image e.2⟩

end Image
end ClangHost
