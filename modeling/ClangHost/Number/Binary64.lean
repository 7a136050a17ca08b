/-!
Finite binary floating-point numbers of 64 bits, without their sign: a significand below 2^53 times
a power of two. Every operation is the exact one followed by one rounding to nearest, ties to the
even significand.
-/
namespace ClangHost

structure Binary64 where
  significand : Nat
  exponent : Int
  deriving DecidableEq, Repr

/-- The quotient rounded to the nearest integer, a tie to the even one. -/
def roundDiv (num den : Nat) : Nat :=
  let q := num / den
  let twice := 2 * (num % den)
  if twice < den then q else if den < twice then q + 1 else q + q % 2

namespace Binary64

def significandLimit : Nat := 1 <<< 53

def zero : Binary64 := ⟨0, -1074⟩

def scaled (num den : Nat) (shift : Int) : Nat × Nat :=
  if 0 ≤ shift then (num <<< shift.toNat, den) else (num, den <<< (-shift).toNat)

/-- The number nearest to `num / den`; none when it is past the largest finite one. -/
def ofRatio? (num den : Nat) : Option Binary64 :=
  if num = 0 then some zero
  else
    let guess : Int := (num.log2 : Int) - (den.log2 : Int) - 53
    let (n, d) := scaled num den (-guess)
    let exponent := max (if n / d < significandLimit then guess else guess + 1) (-1074)
    let (n, d) := scaled num den (-exponent)
    let m := roundDiv n d
    let (m, exponent) := if m = significandLimit then (m / 2, exponent + 1) else (m, exponent)
    if 971 < exponent then none else some ⟨m, exponent⟩

def ratio (x : Binary64) : Nat × Nat := scaled x.significand 1 x.exponent

def mul? (x y : Binary64) : Option Binary64 :=
  ofRatio? (x.ratio.1 * y.ratio.1) (x.ratio.2 * y.ratio.2)

def div? (x y : Binary64) : Option Binary64 :=
  ofRatio? (x.ratio.1 * y.ratio.2) (x.ratio.2 * y.ratio.1)

/-- The number nearest to a decimal fraction; none when it is past the largest finite one. An
exponent that cannot matter is not raised to a power. -/
def ofDecimal? (digits : Nat) (exponent : Int) : Option Binary64 :=
  let size : Int := (Nat.toDigits 10 digits).length + exponent
  if digits = 0 then some zero
  else if 310 < size then none
  else if size < -330 then some zero
  else if 0 ≤ exponent then ofRatio? (digits * Nat.pow 10 exponent.toNat) 1
  else ofRatio? digits (Nat.pow 10 (-exponent).toNat)

end Binary64
end ClangHost
