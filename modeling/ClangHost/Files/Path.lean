import ClangHost.Text.Utf8

/-!
File paths as byte strings: segments with slashes between them. Empty segments and segments that are
a single dot say nothing and are passed over, except for a dot at the very front. The segments of a
path, joined again, are the path (`unsplit_split`).
-/
namespace ClangHost.Path

def slash : UInt8 := 0x2F

def dot : UInt8 := 0x2E

def split : Bytes → List Bytes
  | [] => [[]]
  | b :: rest =>
    if b = slash then [] :: split rest
    else match split rest with
      | [] => [[b]]
      | s :: more => (b :: s) :: more

def unsplit : List Bytes → Bytes
  | [] => []
  | [s] => s
  | s :: t :: rest => s ++ slash :: unsplit (t :: rest)

theorem split_ne_nil (p : Bytes) : split p ≠ [] := by
  cases p with
  | nil => simp [split]
  | cons b rest =>
    simp only [split]
    split
    · simp
    · split <;> simp

theorem unsplit_split (p : Bytes) : unsplit (split p) = p := by
  induction p with
  | nil => rfl
  | cons b rest ih =>
    simp only [split]
    split
    · rename_i h
      cases hs : split rest with
      | nil => exact absurd hs (split_ne_nil rest)
      | cons s more => rw [hs] at ih; simp [unsplit, ih, h]
    · cases hs : split rest with
      | nil => exact absurd hs (split_ne_nil rest)
      | cons s more =>
        rw [hs] at ih
        cases more with
        | nil => simpa [unsplit] using ih
        | cons t rest => simpa [unsplit] using ih

def isTrivial (s : Bytes) : Bool := s == [] || s == [dot]

def up : Bytes := [dot, dot]

def isAbsolute (p : Bytes) : Bool := p.head? == some slash

/-- The front of a path that is no segment of its body: a slash, or a dot that stands alone. -/
def head (p : Bytes) : Bytes :=
  if isAbsolute p then [slash]
  else if p = [dot] || p.take 2 == [dot, slash] then [dot]
  else []

def bodyReversed (p : Bytes) : List Bytes := (split (p.drop (head p).length)).reverse

/-- A path with another one below it. An absolute path stands for itself. -/
def join (base p : Bytes) : Bytes :=
  if isAbsolute p || base.isEmpty then p
  else if base.getLast? == some slash then base ++ p
  else base ++ slash :: p

def parents : List Bytes → List (List Bytes)
  | [] => []
  | s :: rest => if isTrivial s then parents rest else rest.dropWhile isTrivial :: parents rest

/-- A path and all paths above it, as far as its text shows them. -/
def ancestors (p : Bytes) : List Bytes :=
  p :: (parents (bodyReversed p)).map (fun rs => head p ++ unsplit rs.reverse)
    ++ (if head p = [dot] then [[]] else [])

def parent? (p : Bytes) : Option Bytes := (ancestors p)[1]?

/-- The last segment that says something, unless it leads upward. -/
def fileName? (p : Bytes) : Option Bytes :=
  ((bodyReversed p).find? fun s => !isTrivial s).filter (· != up)

end ClangHost.Path
