import ClangHost.Engine.Image.Segment

/-!
Images in memory: the room that the mapped segments take, and what stands at an address. Some tables
in memory are chains of records that each tell how far it is to the next one.
-/
namespace ClangHost.Image

def pageSize : Nat := 4096

/-- No stretch of memory reaches this size: below this address memory is free, above it is the
running program. -/
def memoryLimit : Nat := 0x555555554000

def writableLimit : Nat := 1 <<< 35

def pageDown (n : Nat) : Nat := n / pageSize * pageSize

def pageUp (n : Nat) : Nat := pageDown (n + (pageSize - 1))

def isAligned (s : Segment) : Bool := s.address % pageSize == s.offset % pageSize

def pageEnd (s : Segment) : Nat := pageUp (s.address + s.fileSize)

/-! ## Room -/

def extent (image : Bytes) : Nat :=
  match (loads image).head?, (loads image).getLast? with
  | some first, some last =>
    (last.address + last.memorySize + (UInt64.size - pageDown first.address)) % UInt64.size
  | _, _ => 0

def alignment (image : Bytes) : Nat :=
  (((loads image).map Segment.alignment).filter fun n => n &&& (n - 1) == 0).foldl max 0

/-- The size of the memory that is reserved. To be aligned by more than a page, the extent needs
room around it. -/
def reserved (image : Bytes) : Nat :=
  if alignment image ≤ pageSize then extent image
  else (max (extent image) (alignment image) + alignment image) % UInt64.size

def isGranted (s : Segment) (size : Nat) : Bool :=
  decide (size < memoryLimit) && (!s.isWritable || decide (size ≤ writableLimit))

/-- Can room be found for all mapped segments? It is taken for the first one, at its place in the
file. -/
def isReservable (image : Bytes) : Bool :=
  (loads image).head?.all fun s =>
    extent image != 0 && reserved image != 0 && decide (reserved image < memoryLimit)
      && isGranted s (extent image) && decide (s.offset < offsetLimit)

def isMappable (image : Bytes) : Bool :=
  (loads image).tail.all fun s =>
    decide (pageEnd s ≤ pageDown s.address)
      || decide (s.offset < offsetLimit) && isGranted s (pageEnd s - pageDown s.address)

/-- Can the pages of all segments that do not come from the file be had? Of a segment that goes
round the end of memory there are none. -/
def isFillable (image : Bytes) : Bool :=
  (loads image).all fun s =>
    decide (UInt64.size ≤ s.address + s.memorySize + memoryLimit)
      || isGranted s (s.address + s.memorySize - pageEnd s)

def isSeamless : List Segment → Bool
  | s :: t :: rest => pageEnd s == pageDown t.address && isSeamless (t :: rest)
  | _ => true

/-- Where there are seams, the last segment must not begin before the pages of the first end. -/
def isOrdered (image : Bytes) : Bool :=
  isSeamless (loads image) ||
    match (loads image).head?, (loads image).getLast? with
    | some first, some last => decide (pageEnd first ≤ pageDown last.address)
    | _, _ => true

def vicinity : Nat := 1 <<< 24

/-- Is the memory in use that an image wants to be protected when all its places are filled in? -/
def isProtectable (image : Bytes) : Bool :=
  match ((segments image).filter (·.kind == 0x6474e552)).getLast?, (loads image).head? with
  | some s, some first =>
    let start := (s.address + (UInt64.size - pageDown first.address)) % UInt64.size
    pageDown start == pageDown (start + s.memorySize) || decide (start < extent image + vicinity)
  | _, _ => true

/-! ## Content -/

def covers (s : Segment) (address : Nat) : Bool :=
  pageDown s.address ≤ address && address < pageUp (s.address + max s.fileSize s.memorySize)

/-- The part of an image that is in memory from an address on; of segments with common pages the
last counts. What a segment has in memory beyond its bytes in the file is zero, and is left
out. -/
def memoryFrom (image : Bytes) (address : Nat) : Bytes :=
  match (loads image).reverse.find? fun s => covers s address with
  | none => []
  | some s =>
    let bytes := image.drop (address + s.offset - s.address)
    if s.fileSize < s.memorySize then bytes.take (s.address + s.fileSize - address) else bytes

def numberAt (image : Bytes) (address size : Nat) : Nat :=
  number (memoryFrom image address) 0 size

def textAt (image : Bytes) (address : Nat) : Bytes :=
  (memoryFrom image address).takeWhile (· != 0)

/-- The places of the records of a chain, of which each has at some offset how far it is to the
next one, zero in the last. -/
def chain (image : Bytes) (offset : Nat) : (fuel : Nat) → (place : Nat) → List Nat
  | 0, _ => []
  | fuel + 1, place =>
    let step := numberAt image (place + offset) 4
    place :: if step = 0 then [] else chain image offset fuel (place + step)

/-- The places of the records of a chain. Every record but the last is followed by one that is in
memory further on, which bounds their number. -/
def records (image : Bytes) (offset place : Nat) : List Nat :=
  chain image offset (image.length + 1) place

end ClangHost.Image
