import ClangHost.Engine.Image.Dynamic

/-!
What a loader requires of an image. It looks at the header of a file and at its table of segments
before it maps anything, then at the dynamic section, and names the first requirement that is not
met. A file for another machine is no fault: it is passed over as if it were not there.
-/
namespace ClangHost

inductive ImageFault where
  | short
  | mark
  | wordSize
  | otherMachine
  | byteOrder
  | markVersion
  | system
  | systemVersion
  | padding
  | version
  | kind
  | entrySize
  | tableOutOfReach
  | tableUnreadable
  | unaligned
  | noSegments
  | executable
  | noDynamicSection
  | unmappable
  | unfillable
  | positionIndependentExecutable
  | closed
  deriving DecidableEq, Repr

def ImageFault.phrase : ImageFault → String
  | short => "file too short"
  | mark => "invalid ELF header"
  | wordSize => "wrong ELF class: ELFCLASS32"
  | otherMachine => "cannot open shared object file: No such file or directory"
  | byteOrder => "ELF file data encoding not little-endian"
  | markVersion => "ELF file version ident does not match current one"
  | system => "ELF file OS ABI invalid"
  | systemVersion => "ELF file ABI version invalid"
  | padding => "nonzero padding in e_ident"
  | version => "ELF file version does not match current one"
  | kind => "only ET_DYN and ET_EXEC can be loaded"
  | entrySize => "ELF file's phentsize not the expected size"
  | tableOutOfReach => "cannot read file data: Invalid argument"
  | tableUnreadable => "cannot read file data"
  | unaligned => "ELF load command address/offset not page-aligned"
  | noSegments => "object file has no loadable segments"
  | executable => "cannot dynamically load executable"
  | noDynamicSection => "object file has no dynamic section"
  | unmappable => "failed to map segment from shared object"
  | unfillable => "cannot map zero-fill pages"
  | positionIndependentExecutable => "cannot dynamically load position-independent executable"
  | closed => "shared object cannot be dlopen()ed"

def ImageFault.isPassedOver (fault : ImageFault) : Bool :=
  fault == .wordSize || fault == .otherMachine

/-- Does a complaint about a fault name what was asked for, and not the file that was found? -/
def ImageFault.isOfName : ImageFault → Bool
  | wordSize | otherMachine | unaligned | noSegments | executable | noDynamicSection | unmappable
  | unfillable | positionIndependentExecutable | closed => true
  | _ => false

namespace Image

def markRequirements (image : Bytes) : List (Bool × ImageFault) :=
  let system := number image 7 1
  let systemVersion := number image 8 1
  [(number image 5 1 == 1, .byteOrder),
    (number image 6 1 == 1, .markVersion),
    (system == 0 || system == 3, .system),
    (systemVersion == 0 || system == 3 && decide (systemVersion < 4), .systemVersion),
    (number image 9 7 == 0, .padding)]

/-- What the loader requires of an image, in the order in which it looks, and the fault of one that
does not meet it. What machine an image is for counts before all that is wrong with its mark. -/
def requirements (image : Bytes) : List (Bool × ImageFault) :=
  let kind := number image 16 2
  let isOurs := number image 18 2 == 62
  [(decide (headerSize ≤ image.length), .short),
    (image.take 4 == [0x7f, 0x45, 0x4c, 0x46], .mark),
    (number image 4 1 == 2, .wordSize),
    (isOurs || (markRequirements image).all (·.1), .otherMachine)]
  ++ markRequirements image ++
  [(number image 20 4 == 1, .version),
    (isOurs, .otherMachine),
    (kind == 2 || kind == 3, .kind),
    (number image 54 2 == entrySize, .entrySize),
    (isTableAtHand image || isTableInReach image, .tableOutOfReach),
    (isTableAtHand image || isTableWhole image, .tableUnreadable),
    ((loads image).all isAligned, .unaligned),
    (!(loads image).isEmpty, .noSegments),
    (kind == 3, .executable),
    (dynamicAddress image != 0, .noDynamicSection),
    (isReservable image, .unmappable),
    (isOrdered image, .unaligned),
    (isMappable image, .unmappable),
    (isFillable image, .unfillable),
    (!(uses image).testBit 27, .positionIndependentExecutable),
    (!(uses image).testBit 6, .closed)]

def fault? (image : Bytes) : Option ImageFault :=
  ((requirements image).find? fun r => !r.1).map Prod.snd

end Image
end ClangHost
