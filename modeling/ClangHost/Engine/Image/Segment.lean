import ClangHost.Text.Utf8

/-!
Segments of an image. The header of an image says where its table of segments is and how many
entries it has; an entry describes a stretch of the file and the place in memory that it is for.
-/
namespace ClangHost

structure Segment where
  kind : Nat
  flags : Nat
  offset : Nat
  address : Nat
  fileSize : Nat
  memorySize : Nat
  alignment : Nat
  deriving DecidableEq, Repr

def Segment.isWritable (s : Segment) : Bool := s.flags.testBit 1

namespace Image

def headerSize : Nat := 64

def entrySize : Nat := 56

def firstRead : Nat := 832

def offsetLimit : Nat := 1 <<< 63

/-- The number that some bytes of an image spell, the least significant byte first; bytes past the
end count as zero. -/
def number (image : Bytes) (place size : Nat) : Nat :=
  ((image.drop place).take size).foldr (fun b n => n * 256 + b.toNat) 0

def spelled : (size n : Nat) → Bytes
  | 0, _ => []
  | size + 1, n => n.toUInt8 :: spelled size (n / 256)

def tableStart (image : Bytes) : Nat := number image 32 8

def segmentCount (image : Bytes) : Nat := number image 56 2

def tableSize (image : Bytes) : Nat := segmentCount image * entrySize

def atHand (image : Bytes) : Nat := min image.length firstRead

/-- Does the table end in the part at hand? Its end is counted in words. -/
def isTableAtHand (image : Bytes) : Bool :=
  (tableStart image + tableSize image) % UInt64.size ≤ atHand image

def isTableInReach (image : Bytes) : Bool :=
  tableStart image < offsetLimit && tableStart image + tableSize image < offsetLimit

def isTableWhole (image : Bytes) : Bool :=
  segmentCount image == 0 || tableStart image + tableSize image ≤ image.length

/-- The bytes from the start of the table on. A start that wraps around lies in front of the part
at hand, where the loader keeps the length of that part. -/
def table (image : Bytes) : Bytes :=
  let back := UInt64.size - tableStart image
  if isTableAtHand image && UInt64.size ≤ tableStart image + tableSize image then
    List.replicate (back - 8) 0 ++ (spelled 8 (atHand image)).drop (8 - back) ++ image
  else image.drop (tableStart image)

def segment (entry : Bytes) : Segment :=
  { kind := number entry 0 4, flags := number entry 4 4
    offset := number entry 8 8, address := number entry 16 8
    fileSize := number entry 32 8, memorySize := number entry 40 8
    alignment := number entry 48 8 }

def firstSegments : Nat → Bytes → List Segment
  | 0, _ => []
  | n + 1, entries => segment (entries.take entrySize) :: firstSegments n (entries.drop entrySize)

def segments (image : Bytes) : List Segment := firstSegments (segmentCount image) (table image)

def loads (image : Bytes) : List Segment := (segments image).filter (·.kind == 1)

def dynamics (image : Bytes) : List Segment := (segments image).filter (·.kind == 2)

/-- The address of the dynamic section, zero where there is none: the last segment that has one
counts, and an empty segment makes the image one without. -/
def dynamicAddress (image : Bytes) : Nat :=
  if (dynamics image).any (·.fileSize == 0) then 0
  else (dynamics image).getLast?.elim 0 (·.address)

end Image
end ClangHost
