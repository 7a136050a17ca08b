import ClangHost.Logging.Config
import ClangHost.Logging.Pattern

/-!
Filter directives. A directive sets a threshold for what it is about: events from targets that
begin with a given text, or events inside spans of a given name whose fields have given values.
Its text is read in one pass by a machine that remembers where the part at hand began.
-/
namespace ClangHost

/-- The least severe level that passes; without one nothing does. -/
abbrev Threshold := Option Level

namespace Threshold

def rank (t : Threshold) : Nat := t.elim 0 Level.rank

def laxer (a b : Threshold) : Threshold := if rank a < rank b then b else a

def number? (s : String) : Option Nat :=
  let digits := match s.toList with
    | '+' :: rest => rest
    | cs => cs
  if digits.isEmpty || !digits.all Char.isDigit then none
  else some (digits.foldl (fun n c => n * 10 + (c.toNat - '0'.toNat)) 0)

/-- The threshold that a word names: a level by its name or by its number, or nothing at all. -/
def ofWord? (s : String) : Option Threshold :=
  match number? s with
  | some 0 => some none
  | some n => (Level.all.find? fun l => l.rank == n).map some
  | none => if lowered s == "off" then some none else (Level.ofWord? s).map some

end Threshold

inductive ValueMatch where
  | bool (b : Bool)
  | real (s : String)
  | integer (n : Int)
  | pattern (s : String)
  deriving DecidableEq, Repr

namespace ValueMatch

def unsigned : List Char → List Char
  | '+' :: s => s
  | '-' :: s => s
  | s => s

def isExponent : List Char → Bool
  | [] => true
  | c :: s =>
    let digits := unsigned s
    (c == 'e' || c == 'E') && !digits.isEmpty && digits.all Char.isDigit

/-- Does the text spell a number? It may be infinite or undefined, it may have an exponent, and it
needs digits on one side of its point only. -/
def isReal (s : String) : Bool :=
  let body := unsigned s.toList
  let (whole, rest) := body.span Char.isDigit
  let (fraction, rest) := match rest with
    | '.' :: rest => rest.span Char.isDigit
    | rest => ([], rest)
  ["inf", "infinity", "nan"].contains (lowered (String.ofList body))
    || !(whole.isEmpty && fraction.isEmpty) && isExponent rest

def integer? (s : String) : Option Int :=
  match Threshold.number? s, s.toList with
  | some n, _ => if n < UInt64.size then some n else none
  | none, '-' :: rest =>
    (Threshold.number? (String.ofList rest)).bind fun n =>
      if Int64.minValue.toInt ≤ -n && rest.head? != some '+' then some (-n) else none
  | none, _ => none

def ofText? (s : String) : Option ValueMatch :=
  if s == "true" then some (.bool true)
  else if s == "false" then some (.bool false)
  else match integer? s with
    | some n => some (.integer n)
    | none =>
      if isReal s then some (.real s)
      else if Pattern.isValid s.toList then some (.pattern s)
      else none

def rank : ValueMatch → Nat
  | .bool _ => 0
  | .real _ => 1
  | .integer _ => 2
  | .pattern _ => 3

def compare : ValueMatch → ValueMatch → Ordering
  | .bool a, .bool b => compareOfLessAndEq a.toNat b.toNat
  | .real a, .real b => compareOfLessAndEq a b
  | .integer a, .integer b => compareOfLessAndEq a b
  | .pattern a, .pattern b => compareOfLessAndEq a b
  | a, b => compareOfLessAndEq a.rank b.rank

/-- Does a field of a span have the value? Only truth values and integers are compared. -/
def holds : ValueMatch → FieldValue → Bool
  | .bool a, .bool b => a == b
  | .integer a, .integer b => a == b
  | _, _ => false

end ValueMatch

structure FieldMatch where
  name : String
  value : Option ValueMatch := none
  deriving DecidableEq, Repr

namespace FieldMatch

/-- A field is written as its name, or as its name and its value with an equals sign between. -/
def ofText? (s : String) : Option FieldMatch :=
  match s.splitOn "=" with
  | name :: value :: _ => (ValueMatch.ofText? value).map fun v => { name, value := some v }
  | _ => some { name := s }

def compare (a b : FieldMatch) : Ordering :=
  (compareOfLessAndEq a.value.isSome.toNat b.value.isSome.toNat).then
    ((compareOfLessAndEq a.name b.name).then
      (match a.value, b.value with
        | some v, some w => v.compare w
        | _, _ => .eq))

end FieldMatch

structure Directive where
  level : Threshold := some .trace
  target : Option String := none
  span : Option String := none
  fields : List FieldMatch := []
  deriving DecidableEq, Repr

namespace Directive

/-- What is being read, and the byte where it began. -/
inductive Part where
  | start
  | target (start : Nat)
  | span (start : Nat)
  | field (start : Nat)
  | fieldsEnd
  | spanEnd
  | level (start : Nat)

def isFirst (c : Char) : Bool := c == '-' || c == ':' || c == '_' || Text.isAlphanumeric c

def slice (bs : Bytes) (start stop : Nat) : String := shown ((bs.drop start).take (stop - start))

def advance (whole : Bytes) (place : Nat) (c : Char) :
    Part × Directive → Option (Part × Directive)
  | (.start, d) =>
    if c == '[' then some (.span (place + 1), d)
    else if isFirst c then some (.target place, d)
    else none
  | (.target start, d) =>
    let named : Directive := { d with target := some (slice whole start place) }
    if c == '=' then some (.level (place + 1), named)
    else if c == '[' then some (.span (place + 1), named)
    else some (.target start, d)
  | (.span start, d) =>
    if c == ']' then some (.spanEnd, { d with span := some (slice whole start place) })
    else if c == '\x7b' then
      let name := slice whole start place
      some (.field (place + 1), { d with span := if name.isEmpty then none else some name })
    else some (.span start, d)
  | (.field start, d) =>
    if c == '\x7d' then
      let text := slice whole start place
      if text.isEmpty then none
      else (FieldMatch.ofText? text).map fun f => (.fieldsEnd, { d with fields := d.fields ++ [f] })
    else some (.field start, d)
  | (.fieldsEnd, d) => if c == ']' then some (.spanEnd, d) else none
  | (.spanEnd, d) => if c == '=' then some (.level (place + 1), d) else none
  | (.level start, d) => some (.level start, d)

def run (whole : Bytes) : Nat → List Char → Part × Directive → Option (Part × Directive)
  | _, [], s => some s
  | place, c :: rest, s => (advance whole place c s).bind (run whole (place + c.utf8Size) rest)

def finish (whole : Bytes) : Part × Directive → Option Directive
  | (.target start, d) =>
    let word := slice whole start whole.length
    match Threshold.ofWord? word with
    | some level => some { d with level }
    | none => some { d with target := some word, level := some .trace }
  | (.level start, d) =>
    let word := slice whole start whole.length
    if word.isEmpty then some { d with level := some .trace }
    else (Threshold.ofWord? word).map fun level => { d with level }
  | (.spanEnd, d) => some d
  | _ => none

/-- Reads a directive. Blanks around it are passed over when characters are counted, but not when
parts are cut out, so only a text without them reads as one would expect. -/
def ofText? (s : String) : Option Directive :=
  let whole := Utf8.encode s.toList
  (run whole 0 (Text.trim s.toList) (.start, {})).bind (finish whole)

def isDynamic (d : Directive) : Bool :=
  d.span.isSome || d.fields.any fun f => f.value.isSome

end Directive
end ClangHost
