import ClangHost.Text.Utf8

/-!
The two hashes of names, words of 32 bits, by which images list their symbols.
-/
namespace ClangHost.Image

def highBits (n : Nat) : Nat := n / 0x10000000 * 0x10000000

/-- One step of the hash of a name: four bits to the left, and what leaves the lower 28 bits comes
back at the lower end. -/
def hashStep (h : Nat) (b : UInt8) : Nat :=
  let moved := (h * 16 + b.toNat) % UInt32.size
  (moved ^^^ (highBits moved >>> 24)) % 0x10000000

def hash (name : Bytes) : Nat := name.foldl hashStep 0

def quickHash (name : Bytes) : Nat := name.foldl (fun h b => (h * 33 + b.toNat) % UInt32.size) 5381

end ClangHost.Image
