import ClangHost.Files.Tree

/-!
Where libraries are looked for. A search path is a list of directories with colons between them, in
which a few words behind a dollar sign stand for something else, such as the directory of the image
that has the path.
-/
namespace ClangHost.LibraryPath

def dollar : UInt8 := 0x24

def colon : UInt8 := 0x3A

/-- The words and what they stand for; `origin` is the directory of the image that has the path. -/
def words (origin : Bytes) : List (Bytes × Bytes) :=
  [("ORIGIN", origin), ("PLATFORM", Utf8.encode "haswell".toList),
    ("LIB", Utf8.encode "lib/x86_64-linux-gnu".toList)].map fun (w, value) =>
      (Utf8.encode w.toList, value)

def isWordByte (b : UInt8) : Bool :=
  0x30 ≤ b && b ≤ 0x39 || 0x41 ≤ b && b ≤ 0x5A || b == 0x5F || 0x61 ≤ b && b ≤ 0x7A

/-- How much of a text is a word, bare or in braces; zero if the text does not begin with it. -/
def spread (word text : Bytes) : Nat :=
  if text.head? == some 0x7B then
    if (word ++ [0x7D]).isPrefixOf text.tail then word.length + 2 else 0
  else if word.isPrefixOf text && !(text[word.length]?.any isWordByte) then word.length
  else 0

def word? (origin text : Bytes) : Option (Bytes × Nat) :=
  (words origin).findSome? fun (w, value) =>
    if spread w text = 0 then none else some (value, spread w text)

def expand (origin : Bytes) : Bytes → Bytes
  | [] => []
  | b :: rest =>
    if b = dollar then
      match word? origin rest with
      | some (value, n) => value ++ expand origin (rest.drop n)
      | none => b :: expand origin rest
    else b :: expand origin rest
termination_by text => text.length
decreasing_by all_goals simp; try omega

def pieces (separator : UInt8) (text : Bytes) : List Bytes :=
  text.foldr (fun b ps => if b = separator then [] :: ps else (b :: ps.headD []) :: ps.tail) [[]]

def asDirectory (p : Bytes) : Bytes :=
  (p.reverse.dropWhile (· == Path.slash)).reverse ++ [Path.slash]

/-- The directories of a search path; an empty piece is the working directory. -/
def directories (origin path : Bytes) : List Bytes :=
  if path.isEmpty then []
  else (pieces colon path).filterMap fun piece =>
    if piece.isEmpty then some []
    else
      let p := expand origin piece
      if p.isEmpty then none else some (asDirectory p)

def origin (current : Location) (file : Bytes) : Bytes :=
  let full := if Path.isAbsolute file then file
    else current.flatMap (Path.slash :: ·) ++ Path.slash :: file
  let above := ((full.reverse.dropWhile (· != Path.slash)).drop 1).reverse
  if above.isEmpty then [Path.slash] else above

/-- The places below a directory that are looked at, those for better machines first. -/
def below (directory name : Bytes) : List Bytes :=
  ["glibc-hwcaps/x86-64-v3/", "glibc-hwcaps/x86-64-v2/", ""].map fun part =>
    directory ++ Utf8.encode part.toList ++ name

end ClangHost.LibraryPath
