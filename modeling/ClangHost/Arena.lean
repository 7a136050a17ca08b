import ClangHost.Engine.Basic
import ClangHost.Error
import ClangHost.Trace

/-!
Copies of host values that an engine call may point to. An arena only grows: a copy, once made,
stays what it is for as long as the arena lives, and every copy ends with the one NUL byte in it.
An argument buffer lists the copies of an argument list in order. Main statements: making a copy
leaves all earlier ones alone (`read_push_of_lt`), and a copy reads back (`pointer_push`).
-/
namespace ClangHost

/-- The copies made for one engine call, each with its closing NUL. -/
structure Arena where
  copies : Array Bytes
  deriving DecidableEq, Repr

abbrev Slot := Nat

structure ArgumentBuffer where
  slots : List Slot
  deriving DecidableEq, Repr

def nulOffset? (bs : Bytes) : Option Nat := bs.findIdx? (· == 0)

def untilNul (bs : Bytes) : Bytes := bs.takeWhile (· != 0)

namespace Arena

def empty : Arena := ⟨#[]⟩

def length (a : Arena) : Nat := a.copies.size

def read? (a : Arena) (s : Slot) : Option Bytes := a.copies[s]?

def pointer (a : Arena) (s : Slot) : CString := (a.read? s).map untilNul

def push (a : Arena) (bs : Bytes) : Arena := ⟨a.copies.push (bs ++ [0])⟩

def copy (bs : Bytes) (fault : Nat → Error) : ExceptT Error (StateM Arena) Slot := do
  match nulOffset? bs with
  | some offset => throw (fault offset)
  | none =>
    let a ← get
    set (a.push bs)
    return a.length

def text (what value : String) : ExceptT Error (StateM Arena) Slot :=
  copy (Utf8.encode value.toList) fun offset => .allocation what (.nulAt offset)

def path (p : Bytes) : ExceptT Error (StateM Arena) Slot :=
  copy p fun _ => .allocation (shown p) .nulInPath

/-- Copies an argument list. It ends at the first argument that holds a NUL; the copies made
before that one stay. -/
def marshal (args : List String) : ExceptT Error (StateM Arena) ArgumentBuffer := do
  let slots ← args.zipIdx.mapM fun (arg, i) => text ("argument " ++ toString i) arg
  return ⟨slots⟩

theorem length_push (a : Arena) (bs : Bytes) : (a.push bs).length = a.length + 1 := by
  simp [push, length]

theorem read_push_of_lt (a : Arena) (bs : Bytes) {s : Slot} (h : s < a.length) :
    (a.push bs).read? s = a.read? s := by
  simp only [length] at h
  simp [push, read?, Array.getElem?_push, Nat.ne_of_lt h]

theorem read_push_length (a : Arena) (bs : Bytes) :
    (a.push bs).read? a.length = some (bs ++ [0]) := by
  simp [push, read?, length]

theorem pointer_push (a : Arena) {bs : Bytes} (h : nulOffset? bs = none) :
    (a.push bs).pointer a.length = some bs := by
  have hbs : ∀ b ∈ bs, (b != 0) = true := by simpa [nulOffset?] using h
  have : untilNul (bs ++ [0]) = bs := by
    rw [untilNul, List.takeWhile_append_of_pos hbs]
    simp
  simp [pointer, read_push_length, this]

end Arena

namespace ArgumentBuffer

def length (b : ArgumentBuffer) : Nat := b.slots.length

def isNull (b : ArgumentBuffer) : Bool := b.slots.isEmpty

def get? (a : Arena) (b : ArgumentBuffer) (i : Nat) : Option Bytes :=
  b.slots[i]?.bind a.read?

/-- What the engine is given: the pointers in order, or null where there are none. -/
def pointers (a : Arena) (b : ArgumentBuffer) : Option (List CString) :=
  if b.isNull then none else some (b.slots.map a.pointer)

def debug (a : Arena) (b : ArgumentBuffer) : String :=
  let shown := b.slots.filterMap fun s => (a.pointer s).map Text.Quoting.byteString.bytes
  "[" ++ ", ".intercalate shown ++ "]"

def event (b : ArgumentBuffer) : Event :=
  { level := .trace, target := "cindex_bridge::allocator::arena"
    message := "marshalled argument buffer", fields := [("args", .integer b.length)] }

end ArgumentBuffer
end ClangHost
