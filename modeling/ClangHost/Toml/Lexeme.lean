import ClangHost.Number.Notation
import ClangHost.Text.Hex
import ClangHost.Toml.Scan

/-!
The smallest parts of a TOML document: blanks, comments and line ends, keys, and the four kinds
of quoted text, numbers, and dates.
-/
namespace ClangHost.Toml

open Document (Node Key)

namespace Scan

def isBlank (c : Char) : Bool := c == ' ' || c == '\t'

def isForeign (c : Char) : Bool := 0x80 ≤ c.toNat

def isPrintable (c : Char) : Bool := 0x20 ≤ c.toNat && c.toNat ≤ 0x7E

def isPlain (c : Char) : Bool := c == '\t' || isPrintable c || isForeign c

def blanks : Scan Unit := discard (takeWhile isBlank)

def newline : Scan Unit := char '\n' <|> word ['\r', '\n']

def lineEnd : Scan Unit := do
  if (← peek).isNone then return () else newline

def comment : Scan Unit := do
  char '#'
  discard (takeWhile isPlain)

def lineTrailing : Scan Unit := do
  blanks
  if (← peek) == some '#' then comment
  lineEnd

def gap : Nat → Scan Unit
  | 0 => failure
  | fuel + 1 => do
    blanks
    match ← peek with
    | some '#' => comment; newline; gap fuel
    | some '\n' | some '\r' => newline; gap fuel
    | _ => return ()

def foldedBlanks : Nat → Scan Unit
  | 0 => return ()
  | fuel + 1 => do
    blanks
    if (← maybe newline).isSome then foldedBlanks fuel

def numbered (count : Nat) : Scan Char := do
  let ds ← takeExactly (fun c => (Text.hexValue? c).isSome) count
  let n := ds.foldl (fun n c => n * 16 + (Text.hexValue? c).getD 0) 0
  if h : n.isValidChar then return Char.ofNatAux n h else failure

def escape : Scan Char := do
  match ← any with
  | 'b' => return '\x08'
  | 't' => return '\t'
  | 'n' => return '\n'
  | 'f' => return '\x0c'
  | 'r' => return '\r'
  | '"' => return '"'
  | '\\' => return '\\'
  | 'u' => numbered 4
  | 'U' => numbered 8
  | _ => failure

def basicRest : Nat → List Char → Scan (List Char)
  | 0, _ => failure
  | fuel + 1, read => do
    match ← any with
    | '"' => return read.reverse
    | '\\' => basicRest fuel ((← escape) :: read)
    | c => if isPlain c then basicRest fuel (c :: read) else failure

def basicText : Scan (List Char) := do
  char '"'
  basicRest (← fuel) []

def literalText : Scan (List Char) := do
  char '\''
  let cs ← takeWhile fun c => isPlain c && c != '\''
  char '\''
  return cs

/-- A run of quotes inside a text of several lines: fewer than three belong to the text; three
close it, and up to two more that stand before them belong to it. -/
inductive QuoteRun where
  | inner (count : Nat)
  | closing (count : Nat)

def quoteRun (quote : Char) : Scan QuoteRun := do
  let run ← takeWhile (· == quote)
  let n := run.length
  if n < 3 then return .inner n
  else if n ≤ 5 then return .closing (n - 3)
  else failure

def longBasicRest : Nat → List Char → Scan (List Char)
  | 0, _ => failure
  | fuel + 1, read => do
    match ← peek with
    | some '"' =>
      match ← quoteRun '"' with
      | .inner n => longBasicRest fuel (List.replicate n '"' ++ read)
      | .closing n => return (List.replicate n '"' ++ read).reverse
    | some '\\' =>
      let folded ← maybe do
        char '\\'
        blanks
        newline
      if folded.isSome then
        foldedBlanks fuel
        longBasicRest fuel read
      else
        char '\\'
        longBasicRest fuel ((← escape) :: read)
    | some '\n' | some '\r' => newline; longBasicRest fuel ('\n' :: read)
    | _ => longBasicRest fuel ((← charOf isPlain) :: read)

def longLiteralRest : Nat → List Char → Scan (List Char)
  | 0, _ => failure
  | fuel + 1, read => do
    match ← peek with
    | some '\'' =>
      match ← quoteRun '\'' with
      | .inner n => longLiteralRest fuel (List.replicate n '\'' ++ read)
      | .closing n => return (List.replicate n '\'' ++ read).reverse
    | some '\n' | some '\r' => newline; longLiteralRest fuel ('\n' :: read)
    | _ => longLiteralRest fuel ((← charOf isPlain) :: read)

/-- A text of any of the four kinds. A line end right after three quotes is dropped. -/
def text : Scan (List Char) := do
  match ← ahead 3 with
  | ['"', '"', '"'] =>
    word ['"', '"', '"']
    discard (maybe newline)
    longBasicRest (← fuel) []
  | ['\'', '\'', '\''] =>
    word ['\'', '\'', '\'']
    discard (maybe newline)
    longLiteralRest (← fuel) []
  | '"' :: _ => basicText
  | _ => literalText

def isBareKey (c : Char) : Bool := c.isAlphanum || c == '_' || c == '-'

def simpleKey : Scan Key := do
  let (name, span) ← spanned do
    match ← peek with
    | some '"' => basicText
    | some '\'' => literalText
    | _ => takeWhile1 isBareKey
  return ⟨String.ofList name, some span⟩

def dottedRest : Nat → Scan (List Key)
  | 0 => failure
  | fuel + 1 => do
    if (← peek) == some '.' then
      char '.'
      blanks
      let key ← simpleKey
      blanks
      return key :: (← dottedRest fuel)
    else return []

def depthLimit : Nat := 80

def path : Scan (List Key) := do
  blanks
  let key ← simpleKey
  blanks
  let keys := key :: (← dottedRest (← fuel))
  if keys.length < depthLimit then return keys else failure

def moreDigits (p : Char → Bool) : Nat → Scan (List Char)
  | 0 => failure
  | fuel + 1 => do
    match ← peek with
    | some '_' =>
      char '_'
      let c ← charOf p
      return c :: (← moreDigits p fuel)
    | some c => if p c then do char c; return c :: (← moreDigits p fuel) else return []
    | none => return []

def digits (p : Char → Bool) : Scan (List Char) := do
  let c ← charOf p
  return c :: (← moreDigits p (← fuel))

def sign : Scan Bool := do
  match ← peek with
  | some '-' => char '-'; return true
  | some '+' => char '+'; return false
  | _ => return false

/-- The digits of a decimal integer, which begins with a zero only if it is one. -/
def decimalDigits : Scan (List Char) := do
  match ← peek with
  | some '0' => char '0'; return ['0']
  | _ => digits Char.isDigit

def valueIn (base : Nat) (ds : List Char) : Nat :=
  ds.foldl (fun n c => n * base + (Text.hexValue? c).getD 0) 0

def word64 (n : Int) : Scan Node :=
  if Int64.minValue.toInt ≤ n ∧ n ≤ Int64.maxValue.toInt then return .integer n else failure

def integer : Scan Node := do
  let based (base : Nat) (p : Char → Bool) : Scan Node := do
    discard any
    discard any
    word64 (valueIn base (← digits p))
  match ← ahead 2 with
  | ['0', 'x'] => based 16 fun c => (Text.hexValue? c).isSome
  | ['0', 'o'] => based 8 fun c => '0' ≤ c && c ≤ '7'
  | ['0', 'b'] => based 2 fun c => c == '0' || c == '1'
  | _ =>
    let negative ← sign
    let n : Int := valueIn 10 (← decimalDigits)
    word64 (if negative then -n else n)

def floatText (negative : Bool) (x : Option Binary64) : String :=
  let text := x.elim ['i', 'n', 'f'] (·.text .positional)
  String.ofList (if negative then '-' :: text else text)

def exponent : Scan (Option Int) := do
  match ← peek with
  | some 'e' | some 'E' =>
    discard any
    let negative ← sign
    let n : Int := valueIn 10 (← digits Char.isDigit)
    return some (if negative then -n else n)
  | _ => return none

/-- A number with a fraction or an exponent. A positive one may not be too large. -/
def decimalFloat : Scan Node := do
  let negative ← sign
  let whole ← decimalDigits
  let fraction ← maybe (char '.')
  let fraction ← if fraction.isSome then digits Char.isDigit else pure []
  let e ← exponent
  if fraction.isEmpty && e.isNone then failure
  let x := Binary64.ofDecimal? (valueIn 10 (whole ++ fraction)) (e.getD 0 - fraction.length)
  if x.isNone && !negative then failure
  return .float (floatText negative x)

def specialFloat : Scan Node := do
  let negative ← sign
  (do word ['i', 'n', 'f']; return .float (floatText negative none))
    <|> (do word ['n', 'a', 'n']; return .float "NaN")

def field (count low high : Nat) : Scan Nat := do
  let n := valueIn 10 (← takeExactly Char.isDigit count)
  if low ≤ n ∧ n ≤ high then return n else failure

def daysIn (year month : Nat) : Nat :=
  if month = 2 then
    if year % 4 = 0 ∧ (year % 100 ≠ 0 ∨ year % 400 = 0) then 29 else 28
  else if month = 4 ∨ month = 6 ∨ month = 9 ∨ month = 11 then 30
  else 31

def date : Scan Unit := do
  let year ← field 4 0 9999
  char '-'
  let month ← field 2 1 12
  char '-'
  let day ← field 2 1 31
  if daysIn year month < day then failure

def time : Scan Unit := do
  discard (field 2 0 23)
  char ':'
  discard (field 2 0 59)
  char ':'
  discard (field 2 0 60)
  if (← peek) == some '.' then
    char '.'
    discard (takeWhile1 Char.isDigit)

def offset : Scan Unit := do
  match ← any with
  | 'Z' | 'z' => return ()
  | '+' | '-' =>
    discard (field 2 0 23)
    char ':'
    discard (field 2 0 59)
  | _ => failure

def dateKey : String := "$__toml_private_datetime"

/-- A date, a time, or both. To a reader of records it is a table of one entry. -/
def dateTime : Scan Node := do
  let start := (← get).rest
  let dated : Scan Unit := do
    date
    let _ ← maybe do
      discard (charOf fun c => c == 'T' || c == 't' || c == ' ')
      time
      maybe offset
  dated <|> time
  let text := start.take (start.length - (← get).rest.length)
  return .table [(⟨dateKey, none⟩, none, .text (String.ofList text))] false

def number : Scan Node := dateTime <|> decimalFloat <|> integer <|> specialFloat

end Scan
end ClangHost.Toml
