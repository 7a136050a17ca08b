import ClangHost.Engine.Image.Version

/-!
Symbols of an image: what they are, how the image lists them by the hashes of their names, and which
of them answer a reference.
-/
namespace ClangHost

structure Symbol where
  name : Bytes
  binding : Nat
  kind : Nat
  visibility : Nat
  /-- The section that the symbol is defined in, zero if it is not defined here. -/
  home : Nat
  value : Nat
  deriving DecidableEq, Repr

namespace Symbol

def isHidden (s : Symbol) : Bool := s.visibility == 1 || s.visibility == 2

/-- Does a reference by a symbol lead to its own image, wherever its name is defined? -/
def isLocal (s : Symbol) : Bool := s.binding == 0 || s.isHidden

def isWeak (s : Symbol) : Bool := s.binding == 2

def isPublic (s : Symbol) : Bool := !s.isHidden && [1, 2, 10].contains s.binding

/-- Has a symbol a value? A place in the memory of a thread is one, even if it is zero. -/
def isValued (s : Symbol) : Bool := s.value != 0 || s.home == 0xfff1 || s.kind == 6

def isMaterial (s : Symbol) : Bool := [0, 1, 2, 5, 6, 10].contains s.kind

end Symbol

structure Reference where
  name : Bytes
  version : Option Version := none
  isDefinite : Bool := false
  /-- The number of the first version whose symbols are taken only if there is no choice, where no
  version is asked for. -/
  firstVersion : Nat := 3
  deriving DecidableEq, Repr

inductive Fit where
  | no
  | onlyIfAlone
  | yes
  deriving DecidableEq, Repr

namespace Image

def symbol (image : Bytes) (index : Nat) : Symbol :=
  let place := (value? image 6).getD 0 + 24 * index
  let info := numberAt image (place + 4) 1
  { name := name image (numberAt image place 4)
    binding := info / 16
    kind := info % 16
    visibility := numberAt image (place + 5) 1 % 4
    home := numberAt image (place + 6) 2
    value := numberAt image (place + 8) 8 }

/-! ## Lists of symbols -/

def linked (image : Bytes) (table : Nat) : (fuel : Nat) → (index : Nat) → List Nat
  | 0, _ => []
  | fuel + 1, index =>
    if index = 0 then []
    else index :: linked image table fuel (numberAt image (table + 4 * index) 4)

/-- The indices from one on whose hashes stand in a table and agree with a hash but for the lowest
bit; that bit ends the list. -/
def consecutive (image : Bytes) (table hash : Nat) : (fuel : Nat) → (index : Nat) → List Nat
  | 0, _ => []
  | fuel + 1, index =>
    let found := numberAt image (table + 4 * index) 4
    let rest := if found % 2 = 1 then [] else consecutive image table hash fuel (index + 1)
    if found / 2 = hash / 2 then index :: rest else rest

def listedByHash (image name : Bytes) (table : Nat) : List Nat :=
  let buckets := numberAt image table 4
  if buckets = 0 then []
  else linked image (table + 8 + 4 * buckets) (image.length / 4 + 1)
    (numberAt image (table + 8 + 4 * (hash name % buckets)) 4)

/-- The symbols that the table of quick hashes at an address lists for a name. A filter in front of
the table says that most names are not there. -/
def listedByQuickHash (image name : Bytes) (table : Nat) : List Nat :=
  let h := quickHash name
  let buckets := numberAt image table 4
  let first := numberAt image (table + 4) 4
  let words := numberAt image (table + 8) 4
  let shift := numberAt image (table + 12) 4
  let word := numberAt image (table + 16 + 8 * (h / 64 &&& (words - 1))) 8
  let places := table + 16 + 8 * words
  let hashes := places + 4 * buckets
  if buckets = 0 || !(word.testBit (h % 64) && word.testBit ((h >>> (shift % 64)) % 64)) then []
  else
    let start := numberAt image (places + 4 * (h % buckets)) 4
    if start = 0 then []
    else consecutive image (hashes - 4 * first) h (image.length / 4 + 1) start

def listed (image name : Bytes) : List Nat :=
  match value? image 0x6ffffef5, value? image 4 with
  | some table, _ => listedByQuickHash image name table
  | none, some table => listedByHash image name table
  | none, none => []

/-! ## Answers -/

def versionFit (image : Bytes) (r : Reference) (index : Nat) : Fit :=
  let note := versionNote image index
  let own := version? image (versionNumber note)
  match r.version with
  | some v =>
    if own.any v.agrees then .yes
    else if v.isStrict || own.isSome || isMarked note then .no
    else .yes
  | none =>
    if versionNumber note < r.firstVersion then .yes
    else if isMarked note then .no
    else .onlyIfAlone

def fit (image : Bytes) (r : Reference) (index : Nat) : Fit :=
  let s := symbol image index
  if !s.isValued || !s.isMaterial || r.isDefinite && s.home == 0 || s.name != r.name then .no
  else if isVersioned image then versionFit image r index
  else .yes

/-- The symbol that answers a reference: the first that fits, or the only one that will do. -/
def answer? (image : Bytes) (r : Reference) : Option Nat :=
  let candidates := listed image r.name
  match candidates.find? fun i => fit image r i = .yes with
  | some i => some i
  | none =>
    match candidates.filter fun i => fit image r i = .onlyIfAlone with
    | [i] => some i
    | _ => none

def offers (image : Bytes) (r : Reference) : Bool :=
  (answer? image r).any fun i => (symbol image i).isPublic

end Image
end ClangHost
