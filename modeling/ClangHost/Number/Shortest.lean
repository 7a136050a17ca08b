import ClangHost.Number.Binary64

/-!
The shortest decimal that reads back as a given binary number. The reals that round to the
number form an interval; for one digit, two digits and so on the two neighbours of the number on
that decimal grid are tried, and the first grid with a point in the interval wins.
-/
namespace ClangHost.Binary64

structure Decimal where
  digits : Nat
  exponent : Int
  deriving DecidableEq, Repr

namespace Decimal

def ratio (d : Decimal) : Nat × Nat :=
  if 0 ≤ d.exponent then (d.digits * Nat.pow 10 d.exponent.toNat, 1)
  else (d.digits, Nat.pow 10 (-d.exponent).toNat)

def text (d : Decimal) : List Char := Nat.toDigits 10 d.digits

def magnitude (d : Decimal) : Int := d.exponent + (d.text.length : Int) - 1

def trimmed : Nat → Decimal → Decimal
  | 0, d => d
  | fuel + 1, d =>
    if d.digits % 10 = 0 ∧ d.digits ≠ 0 then trimmed fuel ⟨d.digits / 10, d.exponent + 1⟩ else d

end Decimal

def ratioLt (a b : Nat × Nat) : Bool := a.1 * b.2 < b.1 * a.2

/-- The interval of reals that round to a number: its ends, and whether they belong to it. -/
def interval (x : Binary64) : (Nat × Nat) × (Nat × Nat) × Bool :=
  let below := if 2 * x.significand = significandLimit ∧ -1074 < x.exponent then 1 else 2
  (scaled (4 * x.significand - below) 4 x.exponent, scaled (4 * x.significand + 2) 4 x.exponent,
    x.significand % 2 = 0)

def readsBack (x : Binary64) (d : Decimal) : Bool :=
  let (low, high, closed) := x.interval
  if closed then !ratioLt d.ratio low && !ratioLt high d.ratio
  else ratioLt low d.ratio && ratioLt d.ratio high

def magnitude (x : Binary64) : Int :=
  let (num, den) := x.ratio
  ((Nat.toDigits 10 (num * Nat.pow 10 400 / den)).length : Int) - 401

def floorOn (x : Binary64) (exponent : Int) : Nat :=
  let (num, den) := x.ratio
  if 0 ≤ exponent then num / (den * Nat.pow 10 exponent.toNat)
  else num * Nat.pow 10 (-exponent).toNat / den

inductive Tie where
  | even
  | up
  deriving DecidableEq, Repr

def Tie.takesLower (tie : Tie) (digits : Nat) : Bool :=
  match tie with
  | .even => digits % 2 = 0
  | .up => false

/-- The decimal with the fewest digits, of at most `limit` from `digits` on, that reads back;
of two on one grid the nearer. -/
def shortestFrom (x : Binary64) (tie : Tie) : (limit digits : Nat) → Decimal
  | 0, digits => ⟨x.floorOn (x.magnitude - digits), x.magnitude - digits⟩
  | limit + 1, digits =>
    let exponent := x.magnitude - digits
    let low : Decimal := ⟨x.floorOn exponent, exponent⟩
    let high : Decimal := ⟨low.digits + 1, exponent⟩
    match x.readsBack low, x.readsBack high with
    | true, true =>
      let (num, den) := x.ratio
      let middle := (Decimal.mk (10 * low.digits + 5) (exponent - 1)).ratio
      if ratioLt (num, den) middle then low
      else if ratioLt middle (num, den) then high
      else if tie.takesLower low.digits then low else high
    | true, false => low
    | false, true => high
    | false, false => shortestFrom x tie limit (digits + 1)

def shortest (x : Binary64) (tie : Tie) : Decimal :=
  if x.significand = 0 then ⟨0, 0⟩ else (shortestFrom x tie 17 0).trimmed 400

end ClangHost.Binary64
