import ClangHost.Document.Fault

/-!
Where in a document a fault lies, shown with the line that it begins on. Lines and columns count
from one; columns count characters. Marks under the line span the faulty stretch up to the end of
the line, and there is always one.
-/
namespace ClangHost.Toml

open Document (Span)

def byteSize (s : List Char) : Nat := s.foldl (fun n c => n + c.utf8Size) 0

def charsBefore : Nat → List Char → List Char
  | _, [] => []
  | n, c :: rest => if n = 0 then [] else c :: charsBefore (n - c.utf8Size) rest

/-- The line and the column of a byte of a text, counted from zero. A place past the end counts
from the last byte. -/
def position (s : List Char) (index : Nat) : Nat × Nat :=
  let safe := min index (byteSize s - 1)
  let before := charsBefore safe s
  let column := (before.reverse.takeWhile (· != '\n')).length
  (before.count '\n', column + (index - safe))

def lines : List Char → List (List Char)
  | [] => [[]]
  | c :: rest =>
    if c = '\n' then [] :: lines rest
    else match lines rest with
      | [] => [[c]]
      | line :: more => (c :: line) :: more

def excerpt (source : List Char) (span : Span) (message : String) : String :=
  let (line, column) := position source span.start
  let number := toString (line + 1)
  let content := (lines source)[line]?.getD []
  let margin := String.ofList (List.replicate (number.length + 1) ' ')
  let marks := max 1 (min (span.stop - span.start) (byteSize content - column))
  "TOML parse error at line " ++ number ++ ", column " ++ toString (column + 1) ++ "\n"
    ++ margin ++ "|\n"
    ++ number ++ " | " ++ String.ofList content ++ "\n"
    ++ margin ++ "|" ++ String.ofList (List.replicate (column + 1) ' ' ++ List.replicate marks '^')
    ++ "\n" ++ message ++ "\n"

end ClangHost.Toml
