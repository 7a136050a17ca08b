import ClangHost.Document.Node
import ClangHost.Number.Notation

/-!
JSON numbers. A literal without fraction and exponent is an integer when it fits a 64-bit word,
signed for a negative one; every other literal is a binary number. Its digits are taken while
they fit an unsigned 64-bit word, further ones only move the exponent, and the power of ten is
then applied in steps, each rounded on its own. A number past the largest finite one cannot be
read.
-/
namespace ClangHost.Json

open Document (Node)

structure Literal where
  negative : Bool
  whole : List Char
  fraction : Option (List Char)
  exponent : Option (Bool × List Char)
  deriving DecidableEq, Repr

def digits (s : List Char) : List Char × List Char := s.span Char.isDigit

def Literal.whole? (s : List Char) : Option (List Char × List Char) :=
  match digits s with
  | ([], _) => none
  | ('0' :: _ :: _, _) => none
  | (ds, rest) => some (ds, rest)

def Literal.fraction? : List Char → Option (Option (List Char) × List Char)
  | '.' :: s =>
    match digits s with
    | ([], _) => none
    | (ds, rest) => some (some ds, rest)
  | s => some (none, s)

def Literal.exponent? : List Char → Option (Option (Bool × List Char) × List Char)
  | c :: s =>
    if c = 'e' ∨ c = 'E' then
      let (negative, s) := match s with
        | '+' :: s => (false, s)
        | '-' :: s => (true, s)
        | s => (false, s)
      match digits s with
      | ([], _) => none
      | (ds, rest) => some (some (negative, ds), rest)
    else some (none, c :: s)
  | [] => some (none, [])

def Literal.read? (s : List Char) : Option (Literal × List Char) := do
  let (negative, s) := match s with
    | '-' :: s => (true, s)
    | s => (false, s)
  let (whole, s) ← Literal.whole? s
  let (fraction, s) ← Literal.fraction? s
  let (exponent, s) ← Literal.exponent? s
  some ({ negative, whole, fraction, exponent }, s)

def digitValue (c : Char) : Nat := c.toNat - '0'.toNat

/-- Appends digits to a number while it fits 64 bits: the number, and the digits left over. -/
def absorb : Nat → List Char → Nat × List Char
  | n, [] => (n, [])
  | n, c :: rest =>
    let next := n * 10 + digitValue c
    if next < UInt64.size then absorb next rest else (n, c :: rest)

/-- Applies a power of ten, in steps of at most 308; the fuel bounds the steps. -/
def applyExponent : Nat → Binary64 → Int → Option Binary64
  | 0, _, _ => some Binary64.zero
  | fuel + 1, x, e =>
    if e.natAbs ≤ 308 then
      (Binary64.ofDecimal? 1 e.natAbs).bind fun power =>
        if 0 ≤ e then x.mul? power else x.div? power
    else if x.significand = 0 then some x
    else if 0 ≤ e then none
    else
      (Binary64.ofDecimal? 1 308).bind fun power =>
        (x.div? power).bind fun x => applyExponent fuel x (e + 308)

/-- The value of an exponent; none when it does not fit a signed 32-bit word. -/
def exponentValue? (negative : Bool) (ds : List Char) : Option Int :=
  let n := ds.foldl (fun n c => n * 10 + digitValue c) 0
  if n ≤ Int32.maxValue.toInt then some (if negative then -n else n) else none

namespace Literal

def magnitude? (l : Literal) : Option Binary64 :=
  let (significand, left) := absorb 0 l.whole
  let fraction := l.fraction.getD []
  let (significand, unused) := absorb significand fraction
  let shift : Int := (left.length : Int) - ((fraction.length : Int) - (unused.length : Int))
  let apply (e : Int) := (Binary64.ofRatio? significand 1).bind fun x => applyExponent 8 x e
  match l.exponent with
  | none => apply shift
  | some (negative, ds) =>
    match exponentValue? negative ds with
    | some e => apply (shift + e)
    | none => if significand = 0 ∨ negative then some Binary64.zero else none

def floatNode (negative : Bool) : Option Binary64 → Node
  | none => .unreadable
  | some x =>
    let text := x.text .scientific
    .float (String.ofList (if negative then '-' :: text else text))

def node (l : Literal) : Node :=
  let (n, left) := absorb 0 l.whole
  if l.fraction.isNone && l.exponent.isNone && left.isEmpty then
    if !l.negative then .integer n
    else if 0 < n ∧ Int64.minValue.toInt ≤ -n then .integer (-n)
    else floatNode true l.magnitude?
  else floatNode l.negative l.magnitude?

end Literal
end ClangHost.Json
