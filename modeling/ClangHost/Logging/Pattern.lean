import ClangHost.Text.Alphanumeric
import ClangHost.Text.Hex

/-!
Patterns of text, as a directive gives them for the value of a field. A pattern is only judged
here: it is well formed or not. Patterns are compiled without the tables of Unicode, so what would
need them is refused: letters without case, classes of digits, blanks and letters, and edges of
words are known among ASCII characters alone, that is, where the mode `u` is off. There in turn
nothing may stand for a part of a character. A pattern holds no closing brace, since that ends the
field, so nothing that needs one is well formed either.
-/
namespace ClangHost.Pattern

structure Mode where
  caseless : Bool := false
  unicode : Bool := true
  spaced : Bool := false
  deriving DecidableEq, Repr

/-- Switches what a letter stands for. The other letters have no bearing on well-formedness. -/
def Mode.set (m : Mode) (letter : Char) (on : Bool) : Mode :=
  if letter == 'i' then { m with caseless := on }
  else if letter == 'u' then { m with unicode := on }
  else if letter == 'x' then { m with spaced := on }
  else m

def depthLimit : Nat := 250

/-- The depth of a row: a lone member has its own depth, several are one level deeper. -/
def rowDepth : List Nat → Nat
  | [] => 0
  | [d] => d
  | ds => ds.foldl max 0 + 1

def skipSpace : Bool → List Char → List Char
  | _, [] => []
  | true, c :: s => skipSpace (c != '\n') s
  | false, c :: s =>
    if Text.isBlank c then skipSpace false s
    else if c == '#' then skipSpace true s
    else c :: s

def Mode.skip (m : Mode) (s : List Char) : List Char :=
  if m.spaced then skipSpace false s else s

/-- The next character after blanks; the first number sign counts as one of them. -/
def Mode.peek? (m : Mode) (s : List Char) : Option Char :=
  if m.spaced then
    match s.dropWhile Text.isBlank with
    | '#' :: s => (s.dropWhile Text.isBlank).head?
    | s => s.head?
  else s.head?

/-! ## Single characters -/

inductive Atom where
  | literal (c : Char) (byte : Bool)
  | shorthand (negated : Bool)
  | wordEdge
  | textEnd
  deriving DecidableEq, Repr

def hexNumber? (m : Mode) : Nat → Nat → List Char → Option (Nat × List Char)
  | 0, n, s => some (n, s)
  | count + 1, n, s =>
    match m.skip s with
    | c :: s => (Text.hexValue? c).bind fun d => hexNumber? m count (n * 16 + d) s
    | [] => none

def numbered? (m : Mode) (count : Nat) (s : List Char) : Option (Atom × List Char) :=
  (hexNumber? m count 0 s).bind fun (n, s) =>
    if n.isValidChar then some (.literal (Char.ofNat n) (count == 2), s) else none

def control? : Char → Option Char
  | 'a' => some '\x07'
  | 'f' => some '\x0c'
  | 't' => some '\t'
  | 'n' => some '\n'
  | 'r' => some '\r'
  | 'v' => some '\x0b'
  | _ => none

/-- What the text after a backslash stands for. Of the ASCII characters those that are neither
letters nor digits stand for themselves, apart from the two angles, which are edges of words. -/
def escape? (m : Mode) : List Char → Option (Atom × List Char)
  | [] => none
  | c :: s =>
    if c == 'x' then numbered? m 2 s
    else if c == 'u' then numbered? m 4 s
    else if c == 'U' then numbered? m 8 s
    else if c == 'd' || c == 's' || c == 'w' then some (.shorthand false, s)
    else if c == 'D' || c == 'S' || c == 'W' then some (.shorthand true, s)
    else if c == 'b' || c == 'B' || c == '<' || c == '>' then some (.wordEdge, s)
    else if c == 'A' || c == 'z' then some (.textEnd, s)
    else if c.toNat < 0x80 && !c.isAlphanum then some (.literal c false, s)
    else (control? c).map fun c => (.literal c false, s)

namespace Atom

def isAdmitted (m : Mode) : Atom → Bool
  | literal c byte => if m.unicode then !m.caseless else !(byte && 0x80 ≤ c.toNat)
  | shorthand negated => !m.unicode && !negated
  | wordEdge => !m.unicode
  | textEnd => true

def isMember (m : Mode) : Atom → Bool
  | literal c _ => if m.unicode then !m.caseless else c.toNat < 0x80
  | shorthand negated => !m.unicode && !negated
  | _ => false

end Atom

/-! ## Classes -/

def classNames : List String :=
  ["alnum", "alpha", "ascii", "blank", "cntrl", "digit", "graph", "lower", "print", "punct",
    "space", "upper", "word", "xdigit"]

def namedClass? : List Char → Option (Bool × List Char)
  | ':' :: s =>
    let (negated, s) := match s with
      | '^' :: s => (true, s)
      | s => (false, s)
    match s.span (· != ':') with
    | (name, ':' :: ']' :: rest) =>
      if classNames.contains (String.ofList name) then some (negated, rest) else none
    | _ => none
  | _ => none

/-- A class being read: how deep what stands left of an operator is, and the depths of the
members read since, the newest first. -/
structure Bracket where
  left : Option Nat := none
  members : List Nat := []
  deriving DecidableEq, Repr

namespace Bracket

def depth (b : Bracket) : Nat :=
  match b.left with
  | none => rowDepth b.members
  | some d => max d (rowDepth b.members) + 1

def push (b : Bracket) (depth : Nat) : Bracket := { b with members := depth :: b.members }

def operate (b : Bracket) : Bracket := { left := some b.depth }

end Bracket

def frontHyphens (m : Mode) : Nat → Bracket → List Char → Bracket × List Char
  | fuel + 1, b, '-' :: s => frontHyphens m fuel (b.push 0) (m.skip s)
  | _, b, s => (b, s)

/-- The front of a class, after its bracket. A closing bracket stands for itself there, unless
hyphens come before it. -/
def openClass? (m : Mode) (s : List Char) : Option (Bracket × List Char) :=
  let s := m.skip s
  let (negated, s) := match s with
    | '^' :: s => (true, m.skip s)
    | s => (false, s)
  let (b, s) := frontHyphens m s.length {} s
  let (b, s) := match b.members, s with
    | [], ']' :: s => (b.push 0, m.skip s)
    | _, s => (b, s)
  if negated && !m.unicode || m.unicode && m.caseless && !b.members.isEmpty then none
  else some (b, s)

/-- An atom inside a class, where all characters but the backslash stand for themselves. -/
def classAtom? (m : Mode) : List Char → Option (Atom × List Char)
  | [] => none
  | '\\' :: s => escape? m s
  | c :: s => some (.literal c false, s)

/-- A member of a class, a character or a range of them, and the rest. A hyphen before another one
or before the end of the class is no sign of a range. -/
def member? (m : Mode) (s : List Char) : Option (List Char) := do
  let (low, s) ← classAtom? m s
  if !low.isMember m then none
  else match m.skip s with
    | '-' :: t =>
      if m.peek? t == some ']' || m.peek? t == some '-' then some ('-' :: t)
      else
        let (high, rest) ← classAtom? m (m.skip t)
        match low, high with
        | .literal a _, .literal b _ => if high.isMember m && a ≤ b then some rest else none
        | _, _ => none
    | s => some s

def classEnd? (m : Mode) : Nat → Bracket → List Bracket → List Char → Option (Nat × List Char)
  | 0, _, _, _ => none
  | fuel + 1, here, outer, s =>
    match m.skip s with
    | [] => none
    | ']' :: s =>
      match outer with
      | [] => some (here.depth + 1, s)
      | b :: outer => classEnd? m fuel (b.push (here.depth + 1)) outer s
    | '&' :: '&' :: s => classEnd? m fuel here.operate outer s
    | '-' :: '-' :: s => classEnd? m fuel here.operate outer s
    | '~' :: '~' :: s => classEnd? m fuel here.operate outer s
    | '[' :: s =>
      match namedClass? s with
      | some (negated, s) =>
        if (if m.unicode then m.caseless else negated) then none
        else classEnd? m fuel (here.push 0) outer s
      | none => (openClass? m s).bind fun (b, s) => classEnd? m fuel b (here :: outer) s
    | s => (member? m s).bind fun s => classEnd? m fuel (here.push 0) outer s

/-! ## Groups -/

/-- What a parenthesis can begin: a group in a mode, perhaps with a name, or a mode that holds up
to the end of the group around it. -/
inductive Opening where
  | mode (m : Mode)
  | group (m : Mode) (name : List Char)
  deriving DecidableEq, Repr

def modeLetters : List Char := ['-', 'i', 'm', 's', 'U', 'R', 'u', 'x']

/-- Letters of modes after a question mark. Each may stand once; those after a hyphen are switched
off. -/
def modeText? (seen : List Char) (m : Mode) : List Char → Option (Opening × List Char)
  | [] => none
  | c :: s =>
    if c == ':' || c == ')' then
      if seen.head? == some '-' || c == ')' && seen.isEmpty then none
      else some (if c == ')' then .mode m else .group m [], s)
    else if seen.contains c || !modeLetters.contains c then none
    else modeText? (c :: seen) (m.set c (!seen.contains '-')) s

def isName : List Char → Bool
  | [] => false
  | c :: s =>
    (c == '_' || Text.isAlphabetic c)
      && s.all fun c => ['_', '.', '[', ']'].contains c || Text.isAlphanumeric c

def named? (m : Mode) (s : List Char) : Option (Opening × List Char) :=
  match s.span (· != '>') with
  | (name, '>' :: rest) => if isName name then some (.group m name, rest) else none
  | _ => none

def opening? (m : Mode) (s : List Char) : Option (Opening × List Char) :=
  match m.skip s with
  | '?' :: 'P' :: '<' :: s => named? m s
  | '?' :: '<' :: s => named? m s
  | '?' :: s => modeText? [] m s
  | s => some (.group m [], s)

/-- A group being read: the mode around it, the depths of its complete branches, and the pieces of
the branch at hand, the newest first. A piece is known by its depth; a change of mode has none,
since it cannot be repeated. -/
structure Group where
  around : Mode := {}
  branches : List Nat := []
  pieces : List (Option Nat) := []
  deriving DecidableEq, Repr

namespace Group

def branchDepth (g : Group) : Nat := rowDepth (g.pieces.map (·.getD 0))

def depth (g : Group) : Nat :=
  match g.branches with
  | [] => g.branchDepth
  | ds => ds.foldl max g.branchDepth + 1

def push (g : Group) (piece : Option Nat) : Group := { g with pieces := piece :: g.pieces }

def branch (g : Group) : Group := { g with branches := g.branchDepth :: g.branches, pieces := [] }

end Group

/-- How far a pattern was read: the mode, the group at hand and those around it, and the names that
groups have. -/
structure Reading where
  mode : Mode := {}
  here : Group := {}
  outer : List Group := []
  names : List (List Char) := []
  deriving DecidableEq, Repr

namespace Reading

def push (r : Reading) (piece : Option Nat) : Reading := { r with here := r.here.push piece }

def begin? (r : Reading) : Opening → Option Reading
  | .mode m => some { r.push none with mode := m }
  | .group m name =>
    if r.names.contains name then none
    else some { mode := m, here := { around := r.mode }, outer := r.here :: r.outer
                names := if name.isEmpty then r.names else name :: r.names }

def end? (r : Reading) : Option Reading :=
  match r.outer with
  | [] => none
  | g :: outer =>
    some { r with mode := r.here.around, here := g.push (some (r.here.depth + 1)), outer }

def repeat? (r : Reading) : Option Reading :=
  match r.here.pieces with
  | some d :: pieces => some { r with here := { r.here with pieces := some (d + 1) :: pieces } }
  | _ => none

def atom? (r : Reading) (a : Atom) : Option Reading :=
  if a.isAdmitted r.mode then some (r.push (some 0)) else none

def step? (r : Reading) (c : Char) (s : List Char) : Option (Reading × List Char) :=
  if c == '(' then (opening? r.mode s).bind fun (o, s) => (r.begin? o).map (·, s)
  else if c == ')' then r.end?.map (·, s)
  else if c == '|' then some ({ r with here := r.here.branch }, s)
  else if c == '[' then
    (openClass? r.mode s).bind fun (b, s) =>
      (classEnd? r.mode (s.length + 1) b [] s).map fun (d, s) => (r.push (some d), s)
  else if c == '?' || c == '*' || c == '+' then
    r.repeat?.map (·, if s.head? == some '?' then s.tail else s)
  else if c == '\x7b' then none
  else if c == '\\' then (escape? r.mode s).bind fun (a, s) => (r.atom? a).map (·, s)
  else if c == '.' then if r.mode.unicode then some (r.push (some 0), s) else none
  else if c == '^' || c == '$' then some (r.push (some 0), s)
  else (r.atom? (.literal c false)).map (·, s)

def run? : Nat → Reading → List Char → Option Reading
  | 0, _, _ => none
  | fuel + 1, r, s =>
    match r.mode.skip s with
    | [] => some r
    | c :: s => (r.step? c s).bind fun (r, s) => run? fuel r s

def isComplete (r : Reading) : Bool := r.outer.isEmpty && r.here.depth ≤ depthLimit

end Reading

def isValid (s : List Char) : Bool :=
  (Reading.run? (s.length + 1) {} s).any Reading.isComplete

end ClangHost.Pattern
