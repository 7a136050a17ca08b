import ClangHost.Engine.Image.Symbol

/-!
Relocations: the places of an image that are filled in when it is loaded, many of them with what a
symbol of another image is. Calls may be left for later. Only what looks up a symbol can lack one.
-/
namespace ClangHost

structure Relocation where
  kind : Nat
  symbol : Nat
  deriving DecidableEq, Repr

namespace Relocation

def plain : List Nat := [0, 8, 38]

def known : List Nat := plain ++ [1, 2, 5, 6, 7, 10, 16, 17, 18, 32, 33, 36, 37]

def isLate (r : Relocation) : Bool := r.kind == 37

def deferrable : List Nat := [7, 37]

/-- Kinds that are filled in at once, also among those that are left for later. -/
def isUrgent (r : Relocation) : Bool := r.kind == 36

def definite : List Nat := [7, 16, 17, 18, 36]

end Relocation

namespace Image

/-- Relocations from an address on, in a table of some size. Of an incomplete one at the end the
rest is taken from what follows. -/
def relocationsAt (image : Bytes) (start size : Nat) : List Relocation :=
  let bytes := memoryFrom image start
  let count := min ((size + 23) / 24) (bytes.length / 24 + 1)
  (List.range count).map fun i =>
    ⟨number bytes (24 * i + 8) 4, number bytes (24 * i + 12) 4⟩

structure RelocationTable where
  start : Nat := 0
  size : Nat := 0
  deriving DecidableEq, Repr

/-- The main table of relocations. The end of it can be the table of those about calls. -/
def mainTable (image : Bytes) : RelocationTable :=
  (value? image 7).elim {} fun start => ⟨start, (value? image 8).getD 0⟩

def callTable? (image : Bytes) : Option RelocationTable :=
  (value? image 20).map fun _ => ⟨(value? image 23).getD 0, (value? image 2).getD 0⟩

def RelocationTable.isEndOf (t whole : RelocationTable) : Bool :=
  whole.start + whole.size == t.start + t.size

/-- The relocations of a table with some of its first ones left out: those of a late kind come
last. -/
def relocationsOf (image : Bytes) (t : RelocationTable) (skipped : Nat) : List Relocation :=
  let all := (relocationsAt image t.start t.size).drop skipped
  all.filter (!·.isLate) ++ all.filter (·.isLate)

/-- The relocations that are filled in when an image is loaded, in order. The first ones of the main
table can be known to need no symbol; their number is in the dynamic section. -/
def prompt (image : Bytes) : List Relocation :=
  let main := mainTable image
  let skipped := (value? image 0x6ffffff9).getD 0
  match callTable? image with
  | none => relocationsOf image main skipped
  | some calls =>
    let own := if calls.isEndOf main then { main with size := main.size - calls.size } else main
    if !isBoundNow image then relocationsOf image own skipped
    else if own.start + own.size == calls.start then
      relocationsOf image { own with size := own.size + calls.size } skipped
    else relocationsOf image own skipped ++ relocationsOf image calls 0

def deferred (image : Bytes) : List Relocation :=
  match callTable? image with
  | some calls => if isBoundNow image then [] else relocationsAt image calls.start calls.size
  | none => []

/-- What a relocation wants of other images; none where it needs no symbol or one of its own. -/
def reference? (image : Bytes) (r : Relocation) : Option Reference :=
  let s := symbol image r.symbol
  if Relocation.plain.contains r.kind || s.isLocal || s.isWeak then none
  else some
    { name := s.name
      version := versionOf? image r.symbol
      isDefinite := Relocation.definite.contains r.kind }

end Image
end ClangHost
