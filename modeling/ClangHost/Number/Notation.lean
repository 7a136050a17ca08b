import ClangHost.Number.Shortest

/-!
Decimal notation for binary numbers. A notation says which numbers it writes by position; the
others get an exponent. A number written by position keeps a digit after the point.
-/
namespace ClangHost

/-- The least and the greatest power of ten of the first digit for which a number is written by
position, no bound where absent; and which of two equally near decimals is written. -/
structure DecimalNotation where
  least : Option Int
  greatest : Option Int
  tie : Binary64.Tie

/-- Documents: exponents appear below 10^-5 and from 10^16 on, and a tie goes to the even digit. -/
def DecimalNotation.scientific : DecimalNotation := ⟨some (-5), some 15, .even⟩

/-- Plain: every number is written by position, and a tie goes up. -/
def DecimalNotation.positional : DecimalNotation := ⟨none, none, .up⟩

namespace Binary64

def positionalText (digits : List Char) (before : Int) : List Char :=
  if before ≤ 0 then ['0', '.'] ++ List.replicate (-before).toNat '0' ++ digits
  else
    let n := before.toNat
    if digits.length ≤ n then digits ++ List.replicate (n - digits.length) '0' ++ ['.', '0']
    else digits.take n ++ '.' :: digits.drop n

def scientificText (digits : List Char) (magnitude : Int) : List Char :=
  let mantissa := match digits with
    | d :: d' :: rest => d :: '.' :: d' :: rest
    | short => short
  mantissa ++ ['e', if magnitude < 0 then '-' else '+'] ++ Nat.toDigits 10 magnitude.natAbs

def text (x : Binary64) (style : DecimalNotation) : List Char :=
  let d := x.shortest style.tie
  let magnitude := d.magnitude
  if style.least.all (· ≤ magnitude) && style.greatest.all (magnitude ≤ ·) then
    positionalText d.text (magnitude + 1)
  else scientificText d.text magnitude

end Binary64
end ClangHost
